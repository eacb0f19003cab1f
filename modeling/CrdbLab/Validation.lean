import CrdbLab.Lib.Consecutive
import CrdbLab.Lib.Groups
import CrdbLab.Lib.Recent
import CrdbLab.MatchedThroughput
import CrdbLab.RowMatch
import Mathlib.Algebra.BigOperators.Group.List.Basic
import Mathlib.Data.Prod.Lex
import Mathlib.Data.String.Basic

/-!
Whether a recorded run is consistent with itself.

Each check reads the metrics table in its own way: row by row, by interval, by tier, or by
operation. A cell that was not recorded reads as missing and fails every comparison, and a
latency column may be absent as a whole.
-/

namespace CrdbLab.Validation

open CrdbLab.Lib.Rounding CrdbLab.Lib.KeySort CrdbLab.Lib.OrderStat CrdbLab.Lib.Consecutive
open CrdbLab.Lib.Groups CrdbLab.Lib.Recent
open CrdbLab.MatchedThroughput (Quantile)

/-- A sample above this is a cumulative total leaking into the per-interval stream. -/
def defaultTpsCeiling : ℚ := 20000

inductive Severity | error | warning
  deriving DecidableEq, Repr

/-- What a check found, with the detail its kind of check gives. -/
structure Finding (D : Type) where
  check : String
  severity : Severity
  message : String
  detail : D
  deriving DecidableEq, Repr

structure ValidationReport (D : Type) where
  findings : List (Finding D) := []
  deriving DecidableEq, Repr

def ValidationReport.ok {D : Type} (report : ValidationReport D) : Bool :=
  !report.findings.any fun f => f.severity = .error

/-! ### The table -/

/-- The latency columns in the order in which their values should be. -/
def quantiles : List Quantile := [.p50Ms, .p95Ms, .p99Ms, .pmaxMs]

structure Row where
  concurrency : ℤ
  repetition : ℤ
  elapsedS : ℚ
  op : Option String
  tps : Option ℚ := none
  errorsCum : Option ℚ := none
  p50Ms : Option ℚ := none
  p95Ms : Option ℚ := none
  p99Ms : Option ℚ := none
  pmaxMs : Option ℚ := none
  deriving DecidableEq, Repr

def Row.latency (r : Row) : Quantile → Option ℚ
  | .p50Ms => r.p50Ms
  | .p95Ms => r.p95Ms
  | .p99Ms => r.p99Ms
  | .pmaxMs => r.pmaxMs

/-- The metrics table. Nothing is recorded in a column that is absent. -/
structure Table where
  columns : List Quantile
  rows : List Row
  recorded : ∀ r ∈ rows, ∀ c, r.latency c ≠ none → c ∈ columns

/-- The tier and repetition of a row. -/
def Row.run (r : Row) : ℤ ×ₗ ℤ := toLex (r.concurrency, r.repetition)

/-- The interval of a row within its run. -/
def Row.interval (r : Row) : ℤ ×ₗ ℤ ×ₗ ℚ :=
  toLex (r.concurrency, toLex (r.repetition, r.elapsedS))

/-- The series of a row, if its operation was recorded. -/
def Row.series (r : Row) : Option (ℤ ×ₗ ℤ ×ₗ String) :=
  r.op.map fun op => toLex (r.concurrency, toLex (r.repetition, op))

/-! ### The checks -/

/-- What a finding of the checks on one run carries. -/
inductive Detail
  | maxObserved (maxObserved : ℚ) (rows : List ℕ)
  | rows (rows : List ℕ)
  | tier (concurrency : ℤ) (impliedMeanMs weightedP50Ms meanTotalTps : ℚ)
  | observedMedianS (median : ℚ)
  | distinctCounts (counts : List ℕ)
  | nothing
  deriving DecidableEq, Repr

/-- The rows that fail a test, with their labels in the table. -/
def failing (bad : Row → Bool) (rows : List Row) : List (Row × ℕ) :=
  rows.zipIdx.filter fun p => bad p.1

def checkPlausibility (t : Table) (ceiling : ℚ) : List (Finding Detail) :=
  let bad := failing (fun r => r.tps.any (ceiling < ·)) t.rows
  if bad = [] then []
  else
    [{ check := "plausibility"
       severity := .error
       message := toString bad.length ++ " sample(s) exceed the throughput ceiling of " ++
         fixed 0 ceiling ++ "; these are almost certainly cumulative totals, not " ++
         "per-interval rates"
       detail := .maxObserved (((bad.filterMap fun p => p.1.tps).max?).getD 0)
         ((bad.map Prod.snd).take 10) }]

/-- `lo > hi + 1e-9`, which a missing cell fails. -/
def exceeds (lo hi : Option ℚ) : Bool :=
  match lo, hi with
  | some x, some y => y + 1 / 10 ^ 9 < x
  | _, _ => false

/-- The latency columns the table has. -/
def present (t : Table) : List Quantile := quantiles.filter fun c => c ∈ t.columns

def misordered (columns : List Quantile) (r : Row) : Bool :=
  (consecutive columns).any fun p => exceeds (r.latency p.1) (r.latency p.2)

def checkQuantileOrdering (t : Table) : List (Finding Detail) :=
  let bad := failing (misordered (present t)) t.rows
  if bad = [] then []
  else
    [{ check := "quantile_ordering"
       severity := .error
       message := toString bad.length ++ " sample(s) violate p50 <= p95 <= p99 <= pMax; " ++
         "latency columns are likely bound to the wrong header positions"
       detail := .rows ((bad.map Prod.snd).take 10) }]

/-- A column that a check needs is absent. -/
inductive KeyError | p50Ms
  deriving DecidableEq, Repr

/-- The rows with a throughput. -/
def working (rows : List Row) : List Row := rows.filter fun r => r.tps.any (0 < ·)

/-- One interval's throughput and the median latency weighted by it. -/
structure TickLoad where
  concurrency : ℤ
  totalTps : ℚ
  p50Weight : ℚ
  deriving DecidableEq, Repr

def TickLoad.weightedP50Ms (k : TickLoad) : ℚ := k.p50Weight / k.totalTps

def TickLoad.impliedMeanMs (k : TickLoad) : ℚ := k.concurrency / k.totalTps * 1000

/-- The load of one interval; a missing median weighs nothing. -/
def tickLoad (concurrency : ℤ) (group : List Row) : TickLoad where
  concurrency := concurrency
  totalTps := (group.filterMap Row.tps).sum
  p50Weight := (group.filterMap fun r => do return (← r.tps) * (← r.p50Ms)).sum

/-- The intervals with a throughput. -/
def perTick (rows : List Row) : List TickLoad :=
  ((groupBy (fun r : Row => some r.interval) (working rows)).map fun p =>
    tickLoad (ofLex p.1).1 p.2).filter fun k => 0 < k.totalTps

/-- Throughput is over-counted in a tier, or its latency bound to the wrong column. -/
def overCounted (tolerance : ℚ) (ticks : List TickLoad) : Prop :=
  mean (ticks.map TickLoad.impliedMeanMs) < mean (ticks.map TickLoad.weightedP50Ms) * tolerance

instance (tolerance : ℚ) (ticks : List TickLoad) : Decidable (overCounted tolerance ticks) :=
  inferInstanceAs (Decidable (_ < _))

/-- The finding of a tier whose mean latency is implied to be below its median. -/
def littlesLawFinding (concurrency : ℤ) (ticks : List TickLoad) : Finding Detail :=
  let implied := mean (ticks.map TickLoad.impliedMeanMs)
  let weighted := mean (ticks.map TickLoad.weightedP50Ms)
  { check := "littles_law"
    severity := .error
    message := "C=" ++ toString concurrency ++ ": implied mean latency " ++ fixed 1 implied ++
      " ms is below the frequency-weighted median " ++ fixed 1 weighted ++ " ms (ratio " ++
      (if implied = 0 then "inf" else fixed 2 (weighted / implied)) ++
      "x); throughput is over-counted or latency is mis-bound"
    detail := .tier concurrency (roundTo 2 implied) (roundTo 2 weighted)
      (roundTo 1 (mean (ticks.map TickLoad.totalTps))) }

def checkLittlesLaw (t : Table) (tolerance : ℚ) : Except KeyError (List (Finding Detail)) :=
  if working t.rows = [] then .ok []
  else if .p50Ms ∈ t.columns then
    .ok ((groupBy (fun k : TickLoad => some k.concurrency) (perTick t.rows)).filterMap fun p =>
      if overCounted tolerance p.2 then some (littlesLawFinding p.1 p.2) else none)
  else .error .p50Ms

/-- The distances between neighbouring intervals of a run, each interval taken once. -/
def deltas (group : List Row) : List ℚ := diffs (sorted (group.map Row.elapsedS).dedup)

/-- Too far from the expected distance. -/
def irregular (expectedIntervalS delta : ℚ) : Bool :=
  expectedIntervalS * (1 / 2) < |delta - expectedIntervalS|

def runLabel (run : ℤ ×ₗ ℤ) : String :=
  "C=" ++ toString (ofLex run).1 ++ " rep=" ++ toString (ofLex run).2

def checkSampleCadence (t : Table) (expectedIntervalS : ℚ) : List (Finding Detail) :=
  (groupBy (fun r : Row => some r.run) t.rows).filterMap fun p =>
    let off := (deltas p.2).filter (irregular expectedIntervalS)
    if off = [] then none
    else some
      { check := "sample_cadence"
        severity := .warning
        message := runLabel p.1 ++ ": " ++ toString off.length ++ " irregular inter-sample " ++
          "interval(s); expected " ++ fixed 1 expectedIntervalS ++ " s"
        detail := .observedMedianS ((median (deltas p.2)).getD 0) }

/-- The number of operation types in each interval of a run. -/
def opCounts (group : List Row) : List ℕ :=
  (groupBy (fun r : Row => some r.elapsedS) group).map fun p => nunique (p.2.map Row.op)

def checkOpCoverage (t : Table) : List (Finding Detail) :=
  (groupBy (fun r : Row => some r.run) t.rows).filterMap fun p =>
    let counts := opCounts p.2
    if counts.dedup.length ≤ 1 then none
    else some
      { check := "op_coverage"
        severity := .error
        message := runLabel p.1 ++ ": operation types per interval are inconsistent, so any " ++
          "parity-based inference of op identity is unsafe"
        detail := .distinctCounts (sorted counts.dedup) }

/-- Sorting the rows of a series by elapsed time. In which order rows of the same time come
is not specified. -/
structure ElapsedSort where
  sortValues : List Row → List Row
  perm : ∀ l, (sortValues l).Perm l
  ordered : ∀ l, Ordered Row.elapsedS (sortValues l)

/-- The sort that keeps the order of the table. -/
def stableSort : ElapsedSort := ⟨sortOn Row.elapsedS, sortOn_perm _, ordered_sortOn _⟩

/-- The counter falls from one row to the next; a missing cell is no fall. -/
def falls (p : Row × Row) : Bool :=
  match p.1.errorsCum, p.2.errorsCum with
  | some x, some y => y - x < 0
  | _, _ => false

def seriesLabel (series : ℤ ×ₗ ℤ ×ₗ String) : String :=
  "(" ++ toString (ofLex series).1 ++ ", " ++ toString (ofLex (ofLex series).2).1 ++ ", " ++
    RowMatch.reprStr (ofLex (ofLex series).2).2 ++ ")"

def checkErrorMonotonicity (sort : ElapsedSort) (t : Table) : List (Finding Detail) :=
  (groupBy Row.series t.rows).filterMap fun p =>
    if (consecutive (sort.sortValues p.2)).any falls then some
      { check := "error_monotonicity"
        severity := .error
        message := seriesLabel p.1 ++ ": cumulative error count decreases within a tier"
        detail := .nothing }
    else none

/-- Every check on one run. -/
def validate (sort : ElapsedSort) (t : Table) (tpsCeiling : ℚ) :
    Except KeyError (ValidationReport Detail) := do
  let littlesLaw ← checkLittlesLaw t (9 / 10)
  return ⟨checkPlausibility t tpsCeiling ++ checkQuantileOrdering t ++ littlesLaw ++
    checkSampleCadence t 1 ++ checkOpCoverage t ++ checkErrorMonotonicity sort t⟩

/-! ### When a check finds nothing -/

variable {t : Table}

lemma failing_eq_nil {bad : Row → Bool} {rows : List Row} :
    failing bad rows = [] ↔ ∀ r ∈ rows, bad r = false := by
  rw [failing, List.filter_eq_nil_iff]
  constructor
  · intro h r hr
    obtain ⟨i, hi, rfl⟩ := List.getElem_of_mem hr
    have := h (rows[i], i) (by simp [List.mem_zipIdx_iff_getElem?])
    simpa using this
  · rintro h ⟨r, i⟩ hr
    simpa using h r (List.fst_mem_of_mem_zipIdx hr)

lemma checkQuantileOrdering_eq_nil :
    checkQuantileOrdering t = [] ↔ ∀ r ∈ t.rows, misordered (present t) r = false := by
  rw [← failing_eq_nil, checkQuantileOrdering]
  split <;> simp_all

lemma checkPlausibility_eq_nil {ceiling : ℚ} :
    checkPlausibility t ceiling = [] ↔ ∀ r ∈ t.rows, ∀ x, r.tps = some x → x ≤ ceiling := by
  have hbad : ∀ r : Row, r.tps.any (ceiling < ·) = false ↔ ∀ x, r.tps = some x → x ≤ ceiling := by
    intro r
    cases r.tps <;> simp
  simp only [← hbad, ← failing_eq_nil, checkPlausibility]
  split <;> simp_all

end CrdbLab.Validation
