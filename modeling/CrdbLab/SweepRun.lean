import CrdbLab.ChaosRun
import CrdbLab.TierCurves
import CrdbLab.RowMatch
import CrdbLab.Lib.Dictionary
import CrdbLab.Lib.Loops

/-!
A sweep over the tiers of concurrency.

Each tier runs the generator once and keeps the intervals after the warm-up. Its rows go to the
table of the sweep, and an account of it goes to the record of the pre-flight checks.
-/

namespace CrdbLab.SweepRun

open CrdbLab.Lib.Dictionary CrdbLab.Lib.Rounding CrdbLab.Lib.Extended CrdbLab.Lib.Loops
open CrdbLab.Workload CrdbLab.Ticks CrdbLab.RecordedTicks
open CrdbLab.TierAggregation (TableRow meanNumber onFinite)

/-! ### The order of the tiers -/

/-- The parts of the workload that the sweep itself reads. -/
structure SweepSpec where
  concurrencies : List ℤ
  repetitions : ℕ
  randomiseTierOrder : Bool
  durationS : ℤ
  warmupS : ℤ
  deriving Repr

/-- The tiers with their repetitions; the draws are those of the seeded generator. -/
def tierOrder (spec : SweepSpec) (draw : (i : ℕ) → Fin (i + 1)) : List (ℤ × ℤ) :=
  let plan := (List.range spec.repetitions).flatMap fun r : ℕ =>
    spec.concurrencies.map fun c => (c, (r : ℤ) + 1)
  if spec.randomiseTierOrder then shuffle draw plan else plan

/-! ### One tier -/

/-- Why a tier is broken off. -/
inductive TierError
  | line (e : Raised)
  | progress (e : ConversionError)
  | aggregate (e : AggregateError)
  deriving DecidableEq, Repr

/-- The progress that is shown wants a whole number of seconds. -/
def progress (s : Sample) : Except TierError Unit :=
  if s.kind = .periodic then
    match intOf s.elapsedS with
    | .ok _ => .ok ()
    | .error e => .error (.progress e)
  else .ok ()

/-- The samples of the generator's lines, with the clock when each was read. -/
def collect : WorkloadParser → List (ℚ × String) → Except TierError (List (ℚ × Sample))
  | _, [] => .ok []
  | p, (arrived, line) :: lines =>
    match feed p line with
    | (.error e, _) => .error (.line e)
    | (.ok none, p') => collect p' lines
    | (.ok (some s), p') => do
      progress s
      let rest ← collect p' lines
      return (arrived, s) :: rest

/-- The account of a tier. -/
structure TierSummary where
  concurrency : ℤ
  repetition : ℤ
  ticksRecorded : ℕ
  generatorStartOffsetS : Option Number
  connectionSetupS : Option Number
  meanTotalTps : Option Number
  meanP50Ms : Dict String Number
  generatorTotals : Dict String (Option Number)
  rowMatchRate : Option (Option ℚ) := none

structure TierOutcome where
  rows : List Row
  summary : TierSummary
  note : Option String

def mean? (l : List Number) : Option Number := if l = [] then none else some (meanNumber l)

/-- The ticks after the warm-up. -/
def keptTicks (warmupS : ℚ) (timed : List (ℚ × Tick)) : List (ℚ × Tick) :=
  timed.filter fun p => ¬ Number.le p.2.elapsedS (.finite warmupS)

/-- The medians of the operations, tick by tick. -/
def medians (kept : List (ℚ × Tick)) : List (String × Number) :=
  kept.flatMap fun p => p.2.byOp.map fun e => (e.1, e.2.latencyMs "p50")

/-- What is noted of a tier that kept too little. -/
def shortNote (tier : Tier) (expected : ℤ) (kept : ℕ) : Option String :=
  if (kept : ℚ) < expected * (9 / 10) then
    some ("C=" ++ toString tier.concurrency ++ " rep=" ++ toString tier.repetition ++ ": only " ++
      toString kept ++ " steady-state ticks, expected about " ++ toString expected)
  else none

def Spec.tier (spec : SweepSpec) (tZero : ℚ) (plan : ℤ × ℤ) : Tier :=
  ⟨tZero, spec.warmupS, plan.1, plan.2⟩

/-- One tier: its rows, its account and what is noted of it. -/
def runTier (spec : SweepSpec) (tZero : ℚ) (plan : ℤ × ℤ) (tierStart : ℚ)
    (lines : List (ℚ × String)) : Except TierError TierOutcome := do
  let tier := Spec.tier spec tZero plan
  let arrivals ← collect {} lines
  let timed ← (groupTimedTicks arrivals).mapError TierError.aggregate
  let startedAt := timed.head?.map fun p => Number.finite p.1 - p.2.elapsedS
  let kept := keptTicks tier.warmupS timed
  let throughputs := kept.map fun p => p.2.totalTps
  let summaries := (arrivals.map Prod.snd).filter fun s => s.kind = .summary
  return {
    rows := timed.flatMap (tickRows tier)
    summary := {
      concurrency := tier.concurrency
      repetition := tier.repetition
      ticksRecorded := kept.length
      generatorStartOffsetS :=
        startedAt.map fun t => onFinite (roundTo 3) (t - .finite tZero)
      connectionSetupS :=
        startedAt.map fun t => onFinite (roundTo 3) (t - .finite tierStart)
      meanTotalTps := (mean? throughputs).map (onFinite (roundTo 2))
      meanP50Ms := (Dict.collect (medians kept)).filterMap fun _ values =>
        (mean? values).map (onFinite (roundTo 3))
      generatorTotals := Dict.ofList (summaries.map fun s => (s.op, s.values.lookup "ops_total")) }
    note := shortNote tier (spec.durationS - spec.warmupS) kept.length }

/-! ### The checks of a tier -/

/-- What is reported on the write latency of a tier. -/
structure FloorCheck where
  passed : Bool
  detail : String
  observedWriteP50Ms : Number
  quorumFloorMs : ℚ
  deriving DecidableEq, Repr

/-- A number to so many decimals, as it is printed. -/
def fixedNumber (n : ℕ) : Number → String
  | .finite x => fixed n x
  | .infinite negative => if negative then "-inf" else "inf"
  | .nan => "nan"

def floorTolerance : ℚ := 9 / 10

/-- The write median against what a quorum takes. -/
def checkWriteLatencyFloor (observed : Number) (floorMs : ℚ) : FloorCheck :=
  let passed := Number.le (.finite (floorMs * floorTolerance)) observed
  { passed := passed
    detail := "write p50 " ++ fixedNumber 1 observed ++ " ms against a quorum floor of " ++
      fixed 1 floorMs ++ " ms" ++
      (if passed then "" else "; a committed write cannot outrun quorum, so these writes are " ++
        "probably matching no rows")
    observedWriteP50Ms := onFinite (roundTo 3) observed
    quorumFloorMs := roundTo 3 floorMs }

/-- The counters before and after a tier, of the engine that is measured. -/
inductive Counters
  | cockroach (before after : RowMatch.Sample)
  | postgres (before after : RowMatch.PgSample)
  deriving DecidableEq, Repr

/-- The verdict of the row-match probe that was started before the tier. -/
def finishProbe (counters : Counters) (corroborated : Bool) :
    Except RowMatch.PreflightError (RowMatch.PreflightReport × Option ℚ) :=
  match counters with
  | .cockroach before after =>
    (RowMatch.RowMatchProbe.start ⟨"usertable", none⟩ before).finish after {} corroborated
  | .postgres before after =>
    (RowMatch.PostgresRowMatchProbe.start ⟨"usertable", none⟩ before).finish after {} corroborated

inductive SweepCheck
  | writeLatencyFloor (check : FloorCheck)
  | rowMatch (check : RowMatch.Check)
  deriving DecidableEq, Repr

def SweepCheck.passed : SweepCheck → Bool
  | .writeLatencyFloor check => check.passed
  | .rowMatch check => check.passed

/-- The floor is checked where there is one and updates were measured. -/
def floorCheck (quorumFloor : Option ℚ) (summary : TierSummary) : Option FloorCheck :=
  quorumFloor.bind fun floorMs =>
    (summary.meanP50Ms.get? "update").map fun p50 => checkWriteLatencyFloor p50 floorMs

/-! ### The sweep -/

inductive SweepError
  | tier (e : TierError)
  | rowMatch (e : RowMatch.PreflightError)
  deriving DecidableEq, Repr

/-- What the sweep meets at one tier. -/
structure TierInput where
  tierStart : ℚ
  lines : List (ℚ × String)
  counters : Counters

/-- What a sweep has written so far. -/
structure SweepState where
  rows : List Row := []
  checks : List SweepCheck := []
  tiers : List TierSummary := []
  notes : List String := []

/-- The checks after a tier, and the rate that is kept of it. -/
def checkTier (quorumFloor : Option ℚ) (counters : Counters) (summary : TierSummary) :
    Except SweepError (List SweepCheck × Option ℚ) :=
  let floor := floorCheck quorumFloor summary
  match finishProbe counters (floor.any FloorCheck.passed) with
  | .error e => .error (.rowMatch e)
  | .ok (report, rate) =>
    .ok (floor.toList.map .writeLatencyFloor ++ report.checks.map .rowMatch, rate)

/-- One tier of the sweep: its rows are written, then it is checked. -/
def tierStep (spec : SweepSpec) (tZero : ℚ) (quorumFloor : Option ℚ) (skipChecks : Bool)
    (s : SweepState) (plan : ℤ × ℤ) (input : TierInput) : Except SweepError SweepState := do
  let outcome ← (runTier spec tZero plan input.tierStart input.lines).mapError SweepError.tier
  let s := { s with rows := s.rows ++ outcome.rows, notes := s.notes ++ outcome.note.toList }
  if skipChecks then
    return { s with tiers := s.tiers ++ [outcome.summary] }
  else
    let (checks, rate) ← checkTier quorumFloor input.counters outcome.summary
    return { s with
      checks := s.checks ++ checks
      tiers := s.tiers ++ [{ outcome.summary with rowMatchRate := some rate }] }

/-- The tiers in turn, each with what the sweep meets at it. -/
def runTiers (spec : SweepSpec) (tZero : ℚ) (quorumFloor : Option ℚ) (skipChecks : Bool) :
    SweepState → List ((ℤ × ℤ) × TierInput) → Except SweepError SweepState
  | s, [] => .ok s
  | s, (plan, input) :: rest => do
    let s ← tierStep spec tZero quorumFloor skipChecks s plan input
    runTiers spec tZero quorumFloor skipChecks s rest

/-- The row as the analysis reads it. -/
def tableRow (r : Row) : TableRow where
  toMetricsRow := ChaosRun.metricsRow r
  p95Ms := ChaosRun.value r.p95Ms
  p99Ms := ChaosRun.value r.p99Ms
  pmaxMs := ChaosRun.value r.pmaxMs

def SweepState.table (s : SweepState) : List TableRow := s.rows.map tableRow

end CrdbLab.SweepRun
