import CrdbLab.Clocks
import CrdbLab.Lib.Recent
import Mathlib.Tactic.Linarith
import Mathlib.Order.WithBot

/-!
What the run settled to after the fault, in throughput and in write latency, against the
last intervals before it.

One position of the fault separates the two windows. Under a bounded clock it is the later
bound: the settled window then starts late enough wherever the fault really fell, but the
baseline may reach past a fault that fell earlier.
-/

namespace CrdbLab.SteadyState

open CrdbLab.Lib.Rounding CrdbLab.Lib.Recent CrdbLab.Optional CrdbLab.Loader CrdbLab.Clocks

/-- The interval after the fault that is not described as settled. -/
def livenessSettleS : ℚ := 15

/-- The coefficient of variation below which a series counts as settled. -/
def settledCv : ℚ := 1 / 4

/-- A settled latency within this fraction of the baseline counts as returned. -/
def latencyShiftTolerance : ℚ := 3 / 20

/-- How many intervals the baseline is averaged over. -/
def baselineIntervals : ℕ := 20

section Windows

variable {α : Type*} (time : α → Option ℚ) (faultAt : ℚ)

/-- The rows before the fault. A row without a time is on neither side. -/
def preFault (rows : List α) : List α := rows.filter fun r => (time r).any (· < faultAt)

/-- The last rows before the fault, which the baseline averages. -/
def baselineRows (rows : List α) : List α := (preFault time faultAt rows).rtake baselineIntervals

/-- The rows from the end of the settling window on. -/
def settledRows (rows : List α) : List α :=
  rows.filter fun r => (time r).any (faultAt + livenessSettleS ≤ ·)

end Windows

/-- Both clocks are recorded, so that the rows carry the harness clock themselves. -/
def onWall (run : Run) (alignment : ClockAlignment) : Bool := alignment.exact && recordsWallClock run

def tickTime (run : Run) (alignment : ClockAlignment) (t : Tick) : Option ℚ :=
  if onWall run alignment then t.wallOffsetS else some t.elapsedS

def rowTime (run : Run) (alignment : ClockAlignment) (r : MetricsRow) : Option ℚ :=
  if onWall run alignment then r.wallOffsetS else some r.elapsedS

/-- The position that separates the two windows: the fault, or the later bound on it. -/
def separation (run : Run) (alignment : ClockAlignment) (wall : ℚ) : Except String ℚ :=
  if onWall run alignment then .ok wall
  else (unpack (toGenerator alignment wall)).map Prod.snd

/-- The sample standard deviation in relation to the mean, infinite where that is zero. -/
def variation (sd mean : ℚ) : WithTop ℚ := if mean ≠ 0 then ↑(sd / mean) else ⊤

structure PostFaultState where
  settled : Option Bool
  detail : Option String := none
  meanTps : Option ℚ := none
  sdTps : Option ℚ := none
  maxTps : Option ℚ := none
  coefficientOfVariation : Option (WithTop ℚ) := none
  intervals : Option ℕ := none
  fractionOfBaseline : Option ℚ := none
  settlingWindowExcludedS : Option ℚ := none
  deriving DecidableEq

/-- The text of a coefficient of variation to two decimals. -/
def variationText : WithTop ℚ → String
  | ⊤ => "inf"
  | (x : ℚ) => fixed 2 x

structure LatencyRecovery where
  available : Bool
  op : Option String := none
  settled : Option Bool := none
  baselineP50Ms : Option ℚ := none
  settledP50Ms : Option ℚ := none
  sdMs : Option ℚ := none
  coefficientOfVariation : Option (WithTop ℚ) := none
  ratioToBaseline : Option ℚ := none
  intervals : Option ℕ := none
  settlingWindowExcludedS : Option ℚ := none
  classification : Option String := none
  claim : Option String := none
  detail : Option String := none
  deriving DecidableEq

section Functions

variable (std : List ℚ → ℚ) (run : Run) (alignment : ClockAlignment)

def opRows (op : String) : List MetricsRow := run.metrics.filter fun r => r.op = op

/-- What throughput settled to; `std` is the sample standard deviation. -/
def postFaultSteadyState : Except String PostFaultState :=
  match (faultOffsets run alignment).wallOffsetS with
  | none => .ok { settled := none, detail := some "no fault was injected" }
  | some wall => do
    let faultAt ← separation run alignment wall
    let window := settledRows (tickTime run alignment) faultAt (ticks run 0)
    if window.length < 3 then
      return {
        settled := none
        detail := some ("only " ++ toString window.length ++
          " interval(s) after the settling window") }
    else
      let values := window.map Tick.totalTps
      let average := mean values
      let sd := std values
      let cv := variation sd average
      let pre := (baselineRows (tickTime run alignment) faultAt (ticks run 0)).map Tick.totalTps
      let baseline := if pre = [] then none else some (mean pre)
      return {
        settled := some (cv < settledCv)
        meanTps := some (roundTo 1 average)
        sdTps := some (roundTo 1 sd)
        maxTps := rounded 1 values.max?
        coefficientOfVariation := some (cv.map (roundTo 4))
        intervals := some values.length
        fractionOfBaseline := if truthy baseline then
            baseline.map fun baseline => roundTo 4 (average / baseline)
          else none
        settlingWindowExcludedS := some livenessSettleS }

/-- Whether the latency of one operation came back. -/
def writeLatencyRecovery (op : String) : Except String LatencyRecovery :=
  match (faultOffsets run alignment).wallOffsetS with
  | none => .ok { available := false, detail := some "no fault was injected" }
  | some wall =>
    if opRows run op = [] then
      .ok { available := false, detail := some ("no '" ++ op ++ "' samples in this run") }
    else do
      let faultAt ← separation run alignment wall
      let pre := (baselineRows (rowTime run alignment) faultAt (opRows run op)).map
        MetricsRow.p50Ms
      if pre = [] then
        return {
          available := false
          detail := some ("no pre-fault '" ++ op ++ "' samples to baseline against") }
      else
        let baseline := mean pre
        let window := (settledRows (rowTime run alignment) faultAt (opRows run op)).map
          MetricsRow.p50Ms
        if window.length < 3 then
          return {
            available := true
            op := some op
            baselineP50Ms := some (roundTo 1 baseline)
            detail := some ("only " ++ toString window.length ++ " '" ++ op ++
              "' interval(s) after the " ++ fixed 0 livenessSettleS ++
              "s settling window; too few to characterise what the write path settled to") }
        else
          let average := mean window
          let sd := std window
          let cv := variation sd average
          let settled : Bool := cv < settledCv
          let ratio := if baseline ≠ 0 then some (average / baseline) else none
          let shifted := ratio.any fun ratio => latencyShiftTolerance < |ratio - 1|
          let out : LatencyRecovery :=
            { available := true
              op := some op
              settled := some settled
              baselineP50Ms := some (roundTo 1 baseline)
              settledP50Ms := some (roundTo 1 average)
              sdMs := some (roundTo 1 sd)
              coefficientOfVariation := some (cv.map (roundTo 4))
              ratioToBaseline := rounded 3 ratio
              intervals := some window.length
              settlingWindowExcludedS := some livenessSettleS }
          if !settled then
            return { out with
              classification := some "unsettled_within_run"
              claim := some (op ++ " latency had not settled to a stable value by the end of " ++
                "the run (CV=" ++ variationText cv ++
                "); no latency-floor comparison can be stated") }
          else if shifted then
            return { out with
              classification := some "structural_latency_shift"
              claim := some (op ++ " latency settled at a stable " ++ fixed 1 average ++
                " ms against a " ++ fixed 1 baseline ++ " ms baseline -- " ++
                fixed 2 (orZero ratio) ++ "x, " ++
                (if 1 < orZero ratio then "higher" else "lower") ++ " -- and held there for " ++
                "the rest of the run. This is a structural change to the write path, not a " ++
                "transient effect of the fault, and a throughput figure recovering alongside " ++
                "it does not contradict it") }
          else
            return { out with
              classification := some "returned_to_baseline"
              claim := some (op ++ " latency settled back within " ++
                fixed 0 (latencyShiftTolerance * 100) ++ "% of its pre-fault baseline (" ++
                fixed 1 average ++ " ms vs " ++ fixed 1 baseline ++ " ms)") }

end Functions

/-- **The latency is characterised by the averaged rows only**: two runs with the fault at one
place and the same medians in the baseline and in the settled rows get the same report. -/
theorem writeLatencyRecovery_congr {std : List ℚ → ℚ} {run run' : Run}
    {alignment alignment' : ClockAlignment} {op : String}
    (hwall : (faultOffsets run alignment).wallOffsetS =
      (faultOffsets run' alignment').wallOffsetS)
    (hnone : opRows run op = [] ↔ opRows run' op = [])
    (hfault : ∀ wall, separation run alignment wall = separation run' alignment' wall)
    (hbaseline : ∀ faultAt,
      (baselineRows (rowTime run alignment) faultAt (opRows run op)).map MetricsRow.p50Ms =
        (baselineRows (rowTime run' alignment') faultAt (opRows run' op)).map MetricsRow.p50Ms)
    (hsettled : ∀ faultAt,
      (settledRows (rowTime run alignment) faultAt (opRows run op)).map MetricsRow.p50Ms =
        (settledRows (rowTime run' alignment') faultAt (opRows run' op)).map MetricsRow.p50Ms) :
    writeLatencyRecovery std run alignment op = writeLatencyRecovery std run' alignment' op := by
  unfold writeLatencyRecovery
  simp only [hwall, hnone, hfault, hbaseline, hsettled]

/-! ### Which side of the fault the averaged rows are on -/

variable {run : Run} {alignment : ClockAlignment} {wall : ℚ} {op : String}

/-- Wherever the offset lies between its bounds, the baseline rows are before the fault
and the settled rows at least the settling window after it. -/
def Separated {α : Type*} (alignment : ClockAlignment) (wall : ℚ) (elapsed : α → ℚ)
    (baseline settled : List α) : Prop :=
  ∀ offset, alignment.lowerS ≤ offset → offset ≤ alignment.upperS →
    (∀ r ∈ baseline, elapsed r + offset < wall) ∧
      ∀ r ∈ settled, wall + livenessSettleS ≤ elapsed r + offset

/-- What both functions average is separated by the fault. The throughput is averaged only
where three settled intervals are left. -/
def AveragesSeparated (run : Run) (alignment : ClockAlignment) (wall : ℚ) (op : String) : Prop :=
  ∀ faultAt, separation run alignment wall = .ok faultAt →
    (3 ≤ (settledRows (tickTime run alignment) faultAt (ticks run 0)).length →
      Separated alignment wall Tick.elapsedS
        (baselineRows (tickTime run alignment) faultAt (ticks run 0))
        (settledRows (tickTime run alignment) faultAt (ticks run 0))) ∧
      Separated alignment wall MetricsRow.elapsedS
        (baselineRows (rowTime run alignment) faultAt (opRows run op))
        (settledRows (rowTime run alignment) faultAt (opRows run op))

/-- Every row in the uncertain interval before the later bound is followed by as many rows
before that bound as the baseline averages. -/
def Superseded {α : Type*} (alignment : ClockAlignment) (wall : ℚ) (elapsed : α → ℚ)
    (rows : List α) : Prop :=
  ∀ before r after, rows = before ++ r :: after → wall - alignment.upperS ≤ elapsed r →
    elapsed r < wall - alignment.lowerS →
    baselineIntervals ≤
      (after.filter fun r => elapsed r < wall - alignment.lowerS).length

lemma tickTime_bounded (h : alignment.exact = false) (t : Tick) :
    tickTime run alignment t = some t.elapsedS := by
  simp [tickTime, onWall, h]

lemma rowTime_bounded (h : alignment.exact = false) (r : MetricsRow) :
    rowTime run alignment r = some r.elapsedS := by
  simp [rowTime, onWall, h]

lemma separation_bounded (h : alignment.exact = false) :
    separation run alignment wall = .ok (wall - alignment.lowerS) := by
  simp only [separation, onWall, h, Bool.false_and, Bool.false_eq_true, if_false,
    unpack_toGenerator h]
  rfl

/-- The last position the fault can have decides whether a row is before it for sure. -/
lemma before_fault_iff (hle : alignment.lowerS ≤ alignment.upperS) (elapsed : ℚ) :
    (∀ offset, alignment.lowerS ≤ offset → offset ≤ alignment.upperS → elapsed + offset < wall) ↔
      ¬ wall - alignment.upperS ≤ elapsed := by
  refine ⟨fun h => ?_, fun h offset _ hupper => ?_⟩
  · have := h alignment.upperS hle (le_refl _)
    rw [not_le]
    linarith
  · linarith [not_le.mp h]

/-- **Both windows at once**: the settled rows are always right, and the baseline rows
exactly when none of the last of them is in the uncertain interval. -/
lemma separated_iff {α : Type*} {elapsed : α → ℚ} {time : α → Option ℚ} {rows : List α}
    (hle : alignment.lowerS ≤ alignment.upperS) (htime : ∀ r, time r = some (elapsed r)) :
    Separated alignment wall elapsed (baselineRows time (wall - alignment.lowerS) rows)
        (settledRows time (wall - alignment.lowerS) rows) ↔
      Superseded alignment wall elapsed rows := by
  have hsettled : ∀ offset, alignment.lowerS ≤ offset →
      ∀ r ∈ settledRows time (wall - alignment.lowerS) rows,
        wall + livenessSettleS ≤ elapsed r + offset := by
    intro offset hlower r hr
    have h := (List.mem_filter.mp hr).2
    simp only [htime, Option.any_some, decide_eq_true_eq] at h
    linarith
  have hbaseline := @forall_mem_rtake_filter_iff α rows baselineIntervals
    (fun r => elapsed r < wall - alignment.lowerS) fun r => wall - alignment.upperS ≤ elapsed r
  have hrows : baselineRows time (wall - alignment.lowerS) rows =
      (rows.filter fun r => elapsed r < wall - alignment.lowerS).rtake baselineIntervals := by
    simp only [baselineRows, preFault, htime, Option.any_some]
  rw [← hrows] at hbaseline
  have hfault := fun r : α => @before_fault_iff alignment wall hle (elapsed r)
  calc Separated alignment wall elapsed (baselineRows time (wall - alignment.lowerS) rows)
        (settledRows time (wall - alignment.lowerS) rows)
      ↔ ∀ r ∈ baselineRows time (wall - alignment.lowerS) rows,
          ¬ wall - alignment.upperS ≤ elapsed r := by
        refine ⟨fun h r hr => (hfault r).mp fun offset hl hu => (h offset hl hu).1 r hr, ?_⟩
        intro h offset hl hu
        exact ⟨fun r hr => (hfault r).mpr (h r hr) offset hl hu, hsettled offset hl⟩
    _ ↔ Superseded alignment wall elapsed rows := by
        rw [hbaseline]
        unfold Superseded
        simp only [decide_eq_true_eq]
        refine ⟨fun h pre r post hrows hu hl => h pre r post hrows hl hu,
          fun h pre r post hrows hl hu => h pre r post hrows hu hl⟩

/-- **The averages keep to their side of the fault exactly when every interval the fault may
fall before is superseded in the baseline.** -/
theorem averagesSeparated_iff (hbounded : alignment.exact = false)
    (hle : alignment.lowerS ≤ alignment.upperS) :
    AveragesSeparated run alignment wall op ↔
      (3 ≤ ((ticks run 0).filter fun t =>
          wall - alignment.lowerS + livenessSettleS ≤ t.elapsedS).length →
        Superseded alignment wall Tick.elapsedS (ticks run 0)) ∧
      Superseded alignment wall MetricsRow.elapsedS (opRows run op) := by
  have hticks := @separated_iff alignment wall Tick Tick.elapsedS (tickTime run alignment)
    (ticks run 0) hle (tickTime_bounded hbounded)
  have hrows := @separated_iff alignment wall MetricsRow MetricsRow.elapsedS
    (rowTime run alignment) (opRows run op) hle (rowTime_bounded hbounded)
  have hwindow : settledRows (tickTime run alignment) (wall - alignment.lowerS) (ticks run 0) =
      (ticks run 0).filter fun t => wall - alignment.lowerS + livenessSettleS ≤ t.elapsedS := by
    simp only [settledRows, tickTime_bounded hbounded, Option.any_some]
  rw [hwindow] at hticks
  unfold AveragesSeparated
  rw [separation_bounded hbounded]
  simp only [Except.ok.injEq, forall_eq', hticks, hrows, hwindow]

/-- No interval of the rows lies where the fault may fall. -/
lemma superseded_of_none {α : Type*} {elapsed : α → ℚ} {rows : List α}
    (h : ∀ r ∈ rows,
      ¬ (wall - alignment.upperS ≤ elapsed r ∧ elapsed r < wall - alignment.lowerS)) :
    Superseded alignment wall elapsed rows := by
  intro before r after hrows hu hl
  exact absurd ⟨hu, hl⟩ (h r (by simp [hrows]))

/-- Two intervals before the fault and three after the settling window. The run's envelope
leaves up to 5 s for the offset, and the fault is recorded at 10 s on the harness clock. -/
def runWith (secondS : ℚ) : Run where
  metrics := [2, secondS, 30, 31, 32].map fun elapsed =>
    { elapsedS := elapsed, op := "update", tps := 1 }
  events := { injectedAtOffsetS := some 10, tStartUtc := some 0, tEndUtc := some 37 }

theorem runWith_four_separated : AveragesSeparated (runWith 4) (boundedBy 5) 10 "update" :=
  (averagesSeparated_iff rfl (by decide +kernel)).mpr
    ⟨fun _ => superseded_of_none (by decide +kernel), superseded_of_none (by decide +kernel)⟩

/-- With the offset at 5 s the interval at 7 s is after the fault, and still in the
baseline. -/
theorem runWith_seven_not_separated : ∃ alignment, align (runWith 7) = .ok alignment ∧
    alignment.exact = false ∧ alignment.lowerS = 0 ∧ alignment.upperS = 5 ∧
    ¬ AveragesSeparated (runWith 7) alignment 10 "update" := by
  refine ⟨_, rfl, rfl, rfl, by decide +kernel, fun h => ?_⟩
  obtain ⟨-, hrows⟩ := h 10 (by decide +kernel)
  have hlt := (hrows 5 (by decide +kernel) (by decide +kernel)).1
    { elapsedS := 7, op := "update", tps := 1 } (by decide +kernel)
  norm_num at hlt

end CrdbLab.SteadyState
