import CrdbLab.AvailabilityRto
import Mathlib.Data.Prod.Lex
import Mathlib.Data.List.Dedup
import Mathlib.Algebra.BigOperators.Group.List.Basic

/-!
A loaded run: its metrics table, its event timeline and its audit log.

The metrics table is long, one row for each interval and operation. `ticks` folds it to
one row per interval. A cell the run did not record reads as missing, and so does a column.
-/

namespace CrdbLab.Loader

open CrdbLab.Lib.KeySort CrdbLab.Lib.OrderStat CrdbLab.AvailabilityRto

/-- One row of `metrics.csv`. -/
structure MetricsRow where
  elapsedS : ℚ
  wallOffsetS : Option ℚ := none
  concurrency : ℤ := 1
  repetition : ℤ := 1
  op : String := "read"
  tps : ℚ := 0
  errorsCum : ℚ := 0
  p50Ms : ℚ := 0
  deriving DecidableEq, Repr

/-- The entries of `events.json`. The performance recovery time may be recorded as
missing, which is not the same as not being recorded. -/
structure Events where
  injectedAtOffsetS : Option ℚ := none
  target : Option String := none
  mode : Option String := none
  tStartUtc : Option ℚ := none
  tEndUtc : Option ℚ := none
  recoveryThreshold : Option ℚ := none
  recoveryHoldS : Option ℚ := none
  performanceRtoS : Option (Option ℚ) := none
  rtoS : Option ℚ := none
  availability : Option Measured := none
  deriving DecidableEq, Repr

/-- The chaos section of the profile. -/
structure Chaos where
  injectAtS : Option ℚ := none
  recoveryThreshold : Option ℚ := none
  recoveryHoldS : Option ℚ := none
  deriving DecidableEq, Repr

structure Run where
  runId : String := "run"
  schemaVersion : String := "2.0"
  metrics : List MetricsRow := []
  events : Events := {}
  chaos : Chaos := {}
  auditCsv : Option (List Attempt) := none
  deriving DecidableEq, Repr

/-- The metrics carry the harness clock. -/
def recordsWallClock (run : Run) : Bool := run.metrics.any fun r => r.wallOffsetS.isSome

structure Tick where
  concurrency : ℤ
  repetition : ℤ
  elapsedS : ℚ
  totalTps : ℚ
  errorsCum : ℚ
  opsReported : ℕ
  wallOffsetS : Option ℚ
  weightedP50Ms : Option ℚ
  deriving DecidableEq, Repr

/-- The interval a row belongs to. -/
def interval (r : MetricsRow) : ℤ ×ₗ ℤ ×ₗ ℚ :=
  toLex (r.concurrency, toLex (r.repetition, r.elapsedS))

/-- The aggregates of one interval's rows. -/
def tickOf (rows : List MetricsRow) (key : ℤ ×ₗ ℤ ×ₗ ℚ) : Tick :=
  let group := rows.filter fun r => interval r = key
  let totalTps := (group.map MetricsRow.tps).sum
  { concurrency := (ofLex key).1
    repetition := (ofLex (ofLex key).2).1
    elapsedS := (ofLex (ofLex key).2).2
    totalTps := totalTps
    errorsCum := ((group.map MetricsRow.errorsCum).max?).getD 0
    opsReported := (group.map MetricsRow.op).dedup.length
    wallOffsetS := (group.filterMap MetricsRow.wallOffsetS).min?
    weightedP50Ms :=
      if 0 < totalTps then some ((group.map fun r => r.tps * r.p50Ms).sum / totalTps) else none }

/-- One row per interval after the warm-up, in the order of concurrency, repetition and
elapsed time. -/
def ticks (run : Run) (warmupS : ℚ) : List Tick :=
  let work := if warmupS ≠ 0 then run.metrics.filter fun r => warmupS < r.elapsedS
    else run.metrics
  (sorted (work.map interval).dedup).map (tickOf work)

end CrdbLab.Loader
