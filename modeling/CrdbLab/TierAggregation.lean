import CrdbLab.Loader
import CrdbLab.MatchedThroughput
import CrdbLab.Lib.Groups
import CrdbLab.Lib.Recent
import CrdbLab.Lib.Extended

/-!
The tiers of a sweep, aggregated from its table.

Throughput is summed over the operations of an interval and averaged over the intervals of a
repetition. A tier is the mean of its repetitions. Latency is averaged in the same two steps, but
each operation for itself.
-/

namespace CrdbLab.TierAggregation

open CrdbLab.Lib.Rounding CrdbLab.Lib.KeySort CrdbLab.Lib.OrderStat CrdbLab.Lib.Groups
open CrdbLab.Lib.Recent CrdbLab.Lib.Extended CrdbLab.Loader
open CrdbLab.MatchedThroughput (Quantile Quantiles Sweep Curve CurvePoint OpLatency)

/-- A row of the table with all its quantiles. -/
structure TableRow extends MetricsRow where
  p95Ms : ℚ := 0
  p99Ms : ℚ := 0
  pmaxMs : ℚ := 0
  deriving DecidableEq, Repr

def TableRow.quantiles (r : TableRow) : Quantiles := ⟨r.p50Ms, r.p95Ms, r.p99Ms, r.pmaxMs⟩

/-- The run of a table. -/
def runOf (runId : String) (table : List TableRow) : Run :=
  { runId := runId, metrics := table.map TableRow.toMetricsRow }

/-! ### Repetitions -/

/-- `x / y` as a division of numbers that may be infinite. -/
def quotient (x y : ℚ) : Number :=
  if y = 0 then if x = 0 then .nan else .infinite (decide (x < 0)) else .finite (x / y)

/-- A function of the finite numbers; the others stay as they are. -/
def onFinite (f : ℚ → ℚ) : Number → Number
  | .finite x => .finite (f x)
  | x => x

/-- The mean of the values that are not missing. -/
def meanPresent (l : List (Option ℚ)) : Option ℚ :=
  if l.filterMap id = [] then none else some (mean (l.filterMap id))

def meanNumber (l : List Number) : Number := onFinite (· / l.length) l.sum

/-- One row of the aggregation by repetition. -/
structure Repetition where
  concurrency : ℤ
  repetition : ℤ
  ticks : ℕ
  meanTotalTps : ℚ
  sdTotalTps : Option ℚ
  minTotalTps : ℚ
  maxTotalTps : ℚ
  meanWeightedP50Ms : Option ℚ
  errorsCum : ℚ
  impliedMeanLatencyMs : Number
  deriving DecidableEq, Repr

/-- The repetition a tick belongs to. -/
def repetitionKey (t : Tick) : ℤ ×ₗ ℤ := toLex (t.concurrency, t.repetition)

section Aggregates

-- the sample standard deviation and the square root
variable (std : List ℚ → ℚ) (sqrt : ℚ → ℚ)

/-- The sample deviation, missing for a single value. -/
def deviation (l : List ℚ) : Option ℚ := if l.length < 2 then none else some (std l)

def repetitionOf (key : ℤ ×ₗ ℤ) (group : List Tick) : Repetition :=
  let totals := group.map Tick.totalTps
  { concurrency := (ofLex key).1
    repetition := (ofLex key).2
    ticks := group.length
    meanTotalTps := mean totals
    sdTotalTps := deviation std totals
    minTotalTps := totals.min?.getD 0
    maxTotalTps := totals.max?.getD 0
    meanWeightedP50Ms := meanPresent (group.map Tick.weightedP50Ms)
    errorsCum := ((group.map Tick.errorsCum).max?).getD 0
    -- Little's law
    impliedMeanLatencyMs := onFinite (· * 1000) (quotient (ofLex key).1 (mean totals)) }

/-- One row for each repetition of a tier. -/
def perRepetition (run : Run) (warmupS : ℚ) : List Repetition :=
  (groupBy (fun t => some (repetitionKey t)) (ticks run warmupS)).map fun p =>
    repetitionOf std p.1 p.2

/-! ### Tiers -/

/-- Two-sided critical values of Student's t at 95%, by degrees of freedom. -/
def t95Table : List (ℕ × ℚ) :=
  [(1, 12706 / 1000), (2, 4303 / 1000), (3, 3182 / 1000), (4, 2776 / 1000), (5, 2571 / 1000),
    (6, 2447 / 1000), (7, 2365 / 1000), (8, 2306 / 1000), (9, 2262 / 1000), (10, 2228 / 1000),
    (11, 2201 / 1000), (12, 2179 / 1000)]

def t95 (df : ℕ) : ℚ := (t95Table.lookup df).getD (1960 / 1000)

structure ConfidenceInterval where
  mean : Option ℚ
  sd : Option ℚ
  n : ℕ
  ci95HalfWidth : Option ℚ
  deriving DecidableEq, Repr

/-- The mean with its interval. With one value there is no interval, not one of width zero. -/
def confidenceInterval (values : List ℚ) : ConfidenceInterval :=
  let n := values.length
  if n = 0 then ⟨none, none, 0, none⟩
  else if n < 2 then ⟨some (roundTo 3 (mean values)), none, n, none⟩
  else
    let sd := std values
    ⟨some (roundTo 3 (mean values)), some (roundTo 3 sd), n,
      some (roundTo 3 (t95 (n - 1) * sd / sqrt n))⟩

/-- One row of the aggregation by tier. -/
structure TierRow where
  concurrency : ℤ
  repetitions : ℕ
  meanTotalTps : Option ℚ
  sdTotalTps : Option ℚ
  ci95HalfWidthTps : Option ℚ
  meanWeightedP50Ms : Option ℚ
  impliedMeanLatencyMs : Number
  errorsCum : ℤ
  deriving DecidableEq, Repr

def tierOf (concurrency : ℤ) (group : List Repetition) : TierRow :=
  let stat := confidenceInterval std sqrt (group.map Repetition.meanTotalTps)
  { concurrency := concurrency
    repetitions := stat.n
    meanTotalTps := stat.mean
    sdTotalTps := stat.sd
    ci95HalfWidthTps := stat.ci95HalfWidth
    meanWeightedP50Ms :=
      (meanPresent (group.map Repetition.meanWeightedP50Ms)).map (roundTo 3)
    impliedMeanLatencyMs :=
      onFinite (roundTo 3) (meanNumber (group.map Repetition.impliedMeanLatencyMs))
    errorsCum := Number.truncate (((group.map Repetition.errorsCum).max?).getD 0) }

/-- One row for each tier. -/
def perTier (run : Run) (warmupS : ℚ) : List TierRow :=
  (groupBy (fun r => some r.concurrency) (perRepetition std run warmupS)).map fun p =>
    tierOf std sqrt p.1 p.2

end Aggregates

/-! ### Operations -/

/-- The rows after the warm-up; without one, all of them. -/
def afterWarmup (warmupS : ℚ) (table : List TableRow) : List TableRow :=
  if warmupS ≠ 0 then table.filter fun r => warmupS < r.elapsedS else table

def meanQuantiles (l : List Quantiles) : Quantiles where
  p50Ms := mean (l.map Quantiles.p50Ms)
  p95Ms := mean (l.map Quantiles.p95Ms)
  p99Ms := mean (l.map Quantiles.p99Ms)
  pmaxMs := mean (l.map Quantiles.pmaxMs)

/-- One operation of a repetition. -/
structure OpRepetition where
  concurrency : ℤ
  repetition : ℤ
  op : String
  samples : ℕ
  quantiles : Quantiles
  deriving DecidableEq, Repr

def opKey (r : TableRow) : ℤ ×ₗ ℤ ×ₗ String :=
  toLex (r.concurrency, toLex (r.repetition, r.op))

def opRepetitionOf (key : ℤ ×ₗ ℤ ×ₗ String) (group : List TableRow) : OpRepetition where
  concurrency := (ofLex key).1
  repetition := (ofLex (ofLex key).2).1
  op := (ofLex (ofLex key).2).2
  samples := group.length
  quantiles := meanQuantiles (group.map TableRow.quantiles)

/-- Each quantile of an operation, averaged over the intervals of a repetition. -/
def opRepetitions (table : List TableRow) (warmupS : ℚ) : List OpRepetition :=
  (groupBy (fun r => some (opKey r)) (afterWarmup warmupS table)).map fun p =>
    opRepetitionOf p.1 p.2

/-- One operation of a tier. -/
structure OpTier where
  concurrency : ℤ
  op : String
  repetitions : ℕ
  quantiles : Quantiles
  deriving DecidableEq, Repr

def opTierKey (r : OpRepetition) : ℤ ×ₗ String := toLex (r.concurrency, r.op)

def opTierOf (key : ℤ ×ₗ String) (group : List OpRepetition) : OpTier where
  concurrency := (ofLex key).1
  op := (ofLex key).2
  repetitions := (group.map OpRepetition.repetition).dedup.length
  quantiles := meanQuantiles (group.map OpRepetition.quantiles)

def latencyByOp (table : List TableRow) (warmupS : ℚ) : List OpTier :=
  (groupBy (fun r => some (opTierKey r)) (opRepetitions table warmupS)).map fun p =>
    opTierOf p.1 p.2

/-! ### The whole of a sweep -/

section Whole

variable (std : List ℚ → ℚ) (sqrt : ℚ → ℚ)

/-- What the comparison of two engines reads of a run. -/
def sweepOf (runId : String) (table : List TableRow) (warmupS : ℚ) : Sweep where
  runId := runId
  ops := sorted (table.map fun r => r.op).dedup
  perTier := (perTier std sqrt (runOf runId table) warmupS).map fun t =>
    ⟨t.concurrency, t.meanTotalTps.getD 0⟩
  latencyByOp := (latencyByOp table warmupS).map fun l => ⟨l.concurrency, l.op, l.quantiles⟩

/-- What the rows of a run stand for. -/
structure Window where
  declaredWarmupS : ℚ
  firstIntervalS : Option ℚ
  alreadyTrimmed : Bool
  deriving DecidableEq, Repr

def steadyStateWindow (declaredWarmupS : Option ℚ) (run : Run) : Window :=
  let declared := declaredWarmupS.getD 0
  let first := (run.metrics.map MetricsRow.elapsedS).min?
  { declaredWarmupS := declared
    firstIntervalS := first
    alreadyTrimmed := decide (0 < declared) && first.any (declared < ·) }

end Whole

end CrdbLab.TierAggregation
