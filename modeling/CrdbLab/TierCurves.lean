import CrdbLab.TierAggregation

/-!
The throughput-latency curve of a table.

Each point is the mean over the repetitions of a tier of their means over intervals. It depends on
which rows the table has and not on their order, so that the order the tiers were run in does not
matter.
-/

namespace CrdbLab.TierCurves

open CrdbLab.Lib.Rounding CrdbLab.Lib.KeySort CrdbLab.Lib.OrderStat CrdbLab.Lib.Groups
open CrdbLab.Lib.Recent CrdbLab.Lib.Extended CrdbLab.Loader CrdbLab.TierAggregation
open CrdbLab.MatchedThroughput (Quantile Quantiles Sweep Curve CurvePoint OpLatency
  throughputLatencyCurve)

/-! ### The rows of a tier -/

section Rows

variable (rows : List MetricsRow)

def concurrencies : List ℤ := sorted (rows.map MetricsRow.concurrency).dedup

def repetitionsAt (c : ℤ) : List ℤ :=
  sorted ((rows.filter fun r => r.concurrency = c).map MetricsRow.repetition).dedup

def intervalsAt (c r : ℤ) : List ℚ :=
  sorted ((rows.filter fun row => row.concurrency = c ∧ row.repetition = r).map
    MetricsRow.elapsedS).dedup

/-- The throughput of an interval: that of all operations together. -/
def totalAt (c r : ℤ) (x : ℚ) : ℚ :=
  ((rows.filter fun row => row.concurrency = c ∧ row.repetition = r ∧ row.elapsedS = x).map
    MetricsRow.tps).sum

/-- The mean over repetitions of the means over intervals. -/
def throughputAt (c : ℤ) : ℚ :=
  mean ((repetitionsAt rows c).map fun r => mean ((intervalsAt rows c r).map (totalAt rows c r)))

end Rows

/-! ### Latencies of a tier -/

section Table

variable (table : List TableRow)

def repetitionsOf (c : ℤ) (op : String) : List ℤ :=
  sorted ((table.filter fun r => r.concurrency = c ∧ r.op = op).map fun r => r.repetition).dedup

/-- The mean over repetitions of the means over intervals. -/
def latencyAt (c : ℤ) (op : String) : Quantiles :=
  meanQuantiles ((repetitionsOf table c op).map fun r =>
    meanQuantiles ((table.filter fun row =>
      row.concurrency = c ∧ row.repetition = r ∧ row.op = op).map TableRow.quantiles))

/-- The tiers in which an operation is reported. -/
def tiersOf (op : String) : List ℤ :=
  sorted ((table.filter fun r => r.op = op).map fun r => r.concurrency).dedup

/-- The tier on the curve of an operation. -/
def pointAt (op : String) (c : ℤ) : CurvePoint where
  concurrency := c
  op := op
  meanTotalTps := roundTo 3 (throughputAt (table.map TableRow.toMetricsRow) c)
  quantiles := latencyAt table c op

end Table

/-! ### Ticks of a repetition -/

/-- The rows the ticks are folded from. -/
def steadyRows (run : Run) (warmupS : ℚ) : List MetricsRow :=
  if warmupS ≠ 0 then run.metrics.filter fun r => warmupS < r.elapsedS else run.metrics

lemma ticks_eq (run : Run) (warmupS : ℚ) :
    ticks run warmupS = (sorted ((steadyRows run warmupS).map interval).dedup).map
      (tickOf (steadyRows run warmupS)) := rfl

/-- The tick at an interval. -/
def tickAt (rows : List MetricsRow) (c r : ℤ) (x : ℚ) : Tick :=
  tickOf rows (toLex (c, toLex (r, x)))

lemma interval_eq_iff {row : MetricsRow} {c r : ℤ} {x : ℚ} :
    interval row = toLex (c, toLex (r, x)) ↔
      row.concurrency = c ∧ row.repetition = r ∧ row.elapsedS = x := by
  rw [interval, toLex_inj, Prod.mk.injEq, toLex_inj, Prod.mk.injEq]

lemma totalTps_tickAt (rows : List MetricsRow) (c r : ℤ) (x : ℚ) :
    (tickAt rows c r x).totalTps = totalAt rows c r x := by
  show ((rows.filter fun row => interval row = toLex (c, toLex (r, x))).map MetricsRow.tps).sum = _
  simp only [interval_eq_iff, totalAt]

/-- **The ticks of a repetition** are those of its intervals. -/
lemma ticks_filter (run : Run) (warmupS : ℚ) (c r : ℤ) :
    (ticks run warmupS).filter (fun t => repetitionKey t = toLex (c, r)) =
      (intervalsAt (steadyRows run warmupS) c r).map (tickAt (steadyRows run warmupS) c r) := by
  have hmono : StrictMono fun x : ℚ => (toLex (c, toLex (r, x)) : ℤ ×ₗ ℤ ×ₗ ℚ) := by
    intro x y h
    simpa [Prod.Lex.lt_iff] using h
  have hkeys : ((sorted ((steadyRows run warmupS).map interval).dedup).filter fun k =>
      ((ofLex k).1 = c ∧ (ofLex (ofLex k).2).1 = r)) =
      (intervalsAt (steadyRows run warmupS) c r).map fun x => toLex (c, toLex (r, x)) := by
    refine filter_sorted_dedup hmono fun k => ?_
    simp only [List.mem_map, List.mem_filter, decide_eq_true_eq]
    constructor
    · rintro ⟨⟨row, hrow, rfl⟩, rfl, rfl⟩
      exact ⟨row.elapsedS, ⟨row, ⟨hrow, rfl, rfl⟩, rfl⟩, rfl⟩
    · rintro ⟨x, ⟨row, ⟨hrow, rfl, rfl⟩, rfl⟩, rfl⟩
      exact ⟨⟨row, hrow, rfl⟩, rfl, rfl⟩
  rw [ticks_eq, List.filter_map]
  have hcongr : (sorted ((steadyRows run warmupS).map interval).dedup).filter
      ((fun t => decide (repetitionKey t = toLex (c, r))) ∘ tickOf (steadyRows run warmupS)) =
      (sorted ((steadyRows run warmupS).map interval).dedup).filter fun k =>
        ((ofLex k).1 = c ∧ (ofLex (ofLex k).2).1 = r) := by
    refine List.filter_congr fun k _ => decide_eq_decide.mpr ?_
    rw [repetitionKey, toLex_inj, Prod.mk.injEq]
    rfl
  rw [hcongr, hkeys, List.map_map]
  rfl

lemma repetitions_of_ticks (run : Run) (warmupS : ℚ) :
    sorted ((ticks run warmupS).map repetitionKey).dedup =
      sorted ((steadyRows run warmupS).map fun row =>
        toLex (row.concurrency, row.repetition)).dedup := by
  refine sorted_dedup_congr fun k => ?_
  simp only [ticks_eq, List.map_map, List.mem_map, mem_sortOn, List.mem_dedup, Function.comp_apply]
  constructor
  · rintro ⟨-, ⟨row, hrow, rfl⟩, rfl⟩
    exact ⟨row, hrow, rfl⟩
  · rintro ⟨row, hrow, rfl⟩
    exact ⟨_, ⟨row, hrow, rfl⟩, rfl⟩

section Tiers

variable (std : List ℚ → ℚ) (sqrt : ℚ → ℚ) (run : Run) (warmupS : ℚ)

/-- What is aggregated of a repetition. -/
def repetitionAt (c r : ℤ) : Repetition :=
  repetitionOf std (toLex (c, r))
    ((intervalsAt (steadyRows run warmupS) c r).map (tickAt (steadyRows run warmupS) c r))

lemma perRepetition_eq : perRepetition std run warmupS =
    (sorted ((steadyRows run warmupS).map fun row =>
      toLex (row.concurrency, row.repetition)).dedup).map fun k =>
        repetitionAt std run warmupS (ofLex k).1 (ofLex k).2 := by
  rw [perRepetition, groupBy_some, repetitions_of_ticks, List.map_map]
  refine List.map_congr_left fun k _ => ?_
  exact congrArg (repetitionOf std k) (ticks_filter run warmupS (ofLex k).1 (ofLex k).2)

/-- The repetitions of a tier. -/
lemma perRepetition_filter (c : ℤ) :
    (perRepetition std run warmupS).filter (fun p => p.concurrency = c) =
      (repetitionsAt (steadyRows run warmupS) c).map (repetitionAt std run warmupS c) := by
  have hmono : StrictMono fun r : ℤ => (toLex (c, r) : ℤ ×ₗ ℤ) := by
    intro r s h
    simpa [Prod.Lex.lt_iff] using h
  have hkeys : (sorted ((steadyRows run warmupS).map fun row =>
      (toLex (row.concurrency, row.repetition) : ℤ ×ₗ ℤ)).dedup).filter
        (fun k => (ofLex k).1 = c) =
      (repetitionsAt (steadyRows run warmupS) c).map fun r => toLex (c, r) := by
    refine filter_sorted_dedup hmono fun k => ?_
    simp only [List.mem_map, List.mem_filter, decide_eq_true_eq]
    constructor
    · rintro ⟨⟨row, hrow, rfl⟩, rfl⟩
      exact ⟨row.repetition, ⟨row, ⟨hrow, rfl⟩, rfl⟩, rfl⟩
    · rintro ⟨r, ⟨row, ⟨hrow, rfl⟩, rfl⟩, rfl⟩
      exact ⟨⟨row, hrow, rfl⟩, rfl⟩
  rw [perRepetition_eq, List.filter_map]
  have hcongr : ((fun p : Repetition => decide (p.concurrency = c)) ∘ fun k : ℤ ×ₗ ℤ =>
      repetitionAt std run warmupS (ofLex k).1 (ofLex k).2) = fun k => decide ((ofLex k).1 = c) :=
    rfl
  rw [hcongr, hkeys, List.map_map]
  rfl

lemma meanTotalTps_repetitionAt (c r : ℤ) : (repetitionAt std run warmupS c r).meanTotalTps =
    mean ((intervalsAt (steadyRows run warmupS) c r).map
      (totalAt (steadyRows run warmupS) c r)) := by
  show mean (((intervalsAt (steadyRows run warmupS) c r).map
    (tickAt (steadyRows run warmupS) c r)).map Tick.totalTps) = _
  rw [List.map_map]
  exact congrArg mean (List.map_congr_left fun x _ => totalTps_tickAt _ c r x)

lemma mem_concurrencies {rows : List MetricsRow} {c : ℤ} :
    c ∈ concurrencies rows ↔ ∃ row ∈ rows, row.concurrency = c := by
  simp [concurrencies]

lemma concurrencies_ne_nil {rows : List MetricsRow} (h : rows ≠ []) : concurrencies rows ≠ [] := by
  obtain ⟨row, rest, rfl⟩ := List.exists_cons_of_ne_nil h
  exact List.ne_nil_of_mem (mem_concurrencies.mpr ⟨row, List.mem_cons_self, rfl⟩)

lemma repetitionsAt_ne_nil {rows : List MetricsRow} {c : ℤ} (h : c ∈ concurrencies rows) :
    repetitionsAt rows c ≠ [] := by
  obtain ⟨row, hrow, rfl⟩ := mem_concurrencies.mp h
  refine List.ne_nil_of_mem (a := row.repetition) ?_
  simp only [repetitionsAt, mem_sortOn, List.mem_dedup, List.mem_map, List.mem_filter,
    decide_eq_true_eq]
  exact ⟨row, ⟨hrow, rfl⟩, rfl⟩

lemma confidenceInterval_mean {values : List ℚ} (h : values ≠ []) :
    (confidenceInterval std sqrt values).mean = some (roundTo 3 (mean values)) := by
  unfold confidenceInterval
  dsimp only
  rw [if_neg (by simpa using h)]
  split <;> rfl

/-- **The tiers of a run** are the concurrencies it has rows of, each once. -/
lemma perTier_eq : perTier std sqrt run warmupS =
    (concurrencies (steadyRows run warmupS)).map fun c => tierOf std sqrt c
      ((repetitionsAt (steadyRows run warmupS) c).map (repetitionAt std run warmupS c)) := by
  have hkeys : sorted ((perRepetition std run warmupS).map Repetition.concurrency).dedup =
      concurrencies (steadyRows run warmupS) := by
    refine sorted_dedup_congr fun c => ?_
    simp only [perRepetition_eq, List.map_map, List.mem_map, mem_sortOn, List.mem_dedup,
      Function.comp_apply]
    constructor
    · rintro ⟨-, ⟨row, hrow, rfl⟩, rfl⟩
      exact ⟨row, hrow, rfl⟩
    · rintro ⟨row, hrow, rfl⟩
      exact ⟨_, ⟨row, hrow, rfl⟩, rfl⟩
  rw [perTier, groupBy_some, hkeys, List.map_map]
  refine List.map_congr_left fun c _ => ?_
  exact congrArg (tierOf std sqrt c) (perRepetition_filter std run warmupS c)

lemma meanTotalTps_perTier : (perTier std sqrt run warmupS).map
    (fun t => (t.concurrency, t.meanTotalTps)) =
      (concurrencies (steadyRows run warmupS)).map fun c =>
        (c, some (roundTo 3 (throughputAt (steadyRows run warmupS) c))) := by
  rw [perTier_eq, List.map_map]
  refine List.map_congr_left fun c hc => ?_
  have hne : ((repetitionsAt (steadyRows run warmupS) c).map
      (repetitionAt std run warmupS c)).map Repetition.meanTotalTps ≠ [] := by
    simpa using repetitionsAt_ne_nil hc
  have hmeans : ((repetitionsAt (steadyRows run warmupS) c).map
      (repetitionAt std run warmupS c)).map Repetition.meanTotalTps =
      (repetitionsAt (steadyRows run warmupS) c).map fun r =>
        mean ((intervalsAt (steadyRows run warmupS) c r).map
          (totalAt (steadyRows run warmupS) c r)) := by
    rw [List.map_map]
    exact List.map_congr_left fun r _ => meanTotalTps_repetitionAt std run warmupS c r
  show (c, (confidenceInterval std sqrt _).mean) = _
  rw [confidenceInterval_mean std sqrt hne, hmeans]
  rfl

end Tiers

/-! ### Operations of a tier -/

section Operations

variable (table : List TableRow) (warmupS : ℚ)

lemma metrics_afterWarmup (runId : String) :
    steadyRows (runOf runId table) warmupS =
      (afterWarmup warmupS table).map TableRow.toMetricsRow := by
  unfold steadyRows afterWarmup runOf
  split
  · rw [List.filter_map]
    rfl
  · rfl

/-- What is aggregated of an operation in a repetition. -/
def opRepetitionAt (rows : List TableRow) (c : ℤ) (op : String) (r : ℤ) : OpRepetition :=
  opRepetitionOf (toLex (c, toLex (r, op)))
    (rows.filter fun row => opKey row = toLex (c, toLex (r, op)))

lemma opKey_eq_iff {row : TableRow} {c r : ℤ} {op : String} :
    opKey row = toLex (c, toLex (r, op)) ↔
      row.concurrency = c ∧ row.repetition = r ∧ row.op = op := by
  rw [opKey, toLex_inj, Prod.mk.injEq, toLex_inj, Prod.mk.injEq]

lemma opRepetitions_filter (c : ℤ) (op : String) :
    (opRepetitions table warmupS).filter (fun o => opTierKey o = toLex (c, op)) =
      (repetitionsOf (afterWarmup warmupS table) c op).map
        (opRepetitionAt (afterWarmup warmupS table) c op) := by
  have hmono : StrictMono fun r : ℤ => (toLex (c, toLex (r, op)) : ℤ ×ₗ ℤ ×ₗ String) := by
    intro r s h
    simpa [Prod.Lex.lt_iff] using h
  have hkeys : (sorted ((afterWarmup warmupS table).map opKey).dedup).filter
      (fun k => decide (toLex ((ofLex k).1, (ofLex (ofLex k).2).2) = toLex (c, op))) =
      (repetitionsOf (afterWarmup warmupS table) c op).map fun r => toLex (c, toLex (r, op)) := by
    refine filter_sorted_dedup hmono fun k => ?_
    simp only [List.mem_map, List.mem_filter, decide_eq_true_eq, toLex_inj, Prod.mk.injEq]
    constructor
    · rintro ⟨⟨row, hrow, rfl⟩, rfl, rfl⟩
      exact ⟨row.repetition, ⟨row, ⟨hrow, rfl, rfl⟩, rfl⟩, rfl⟩
    · rintro ⟨r, ⟨row, ⟨hrow, rfl, rfl⟩, rfl⟩, rfl⟩
      exact ⟨⟨row, hrow, rfl⟩, rfl, rfl⟩
  rw [opRepetitions, groupBy_some, List.map_map, List.filter_map]
  have hcongr : ((fun o : OpRepetition => decide (opTierKey o = toLex (c, op))) ∘
      ((fun p : (ℤ ×ₗ ℤ ×ₗ String) × List TableRow => opRepetitionOf p.1 p.2) ∘ fun k =>
        (k, (afterWarmup warmupS table).filter fun row => opKey row = k))) =
      fun k => decide (toLex ((ofLex k).1, (ofLex (ofLex k).2).2) = toLex (c, op)) := rfl
  rw [hcongr, hkeys, List.map_map]
  rfl

lemma opTiers_of_repetitions :
    sorted ((opRepetitions table warmupS).map opTierKey).dedup =
      sorted ((afterWarmup warmupS table).map fun row =>
        (toLex (row.concurrency, row.op) : ℤ ×ₗ String)).dedup := by
  refine sorted_dedup_congr fun k => ?_
  simp only [opRepetitions, groupBy_some, List.map_map, List.mem_map, mem_sortOn, List.mem_dedup,
    Function.comp_apply]
  constructor
  · rintro ⟨-, ⟨row, hrow, rfl⟩, rfl⟩
    exact ⟨row, hrow, rfl⟩
  · rintro ⟨row, hrow, rfl⟩
    exact ⟨_, ⟨row, hrow, rfl⟩, rfl⟩

lemma quantiles_opTierOf (rows : List TableRow) (c : ℤ) (op : String) :
    (opTierOf (toLex (c, op)) ((repetitionsOf rows c op).map
      (opRepetitionAt rows c op))).quantiles = latencyAt rows c op := by
  show meanQuantiles (((repetitionsOf rows c op).map
    (opRepetitionAt rows c op)).map OpRepetition.quantiles) = _
  rw [List.map_map, latencyAt]
  refine congrArg meanQuantiles (List.map_congr_left fun r _ => ?_)
  show meanQuantiles ((rows.filter fun row => opKey row = toLex (c, toLex (r, op))).map
    TableRow.quantiles) = _
  simp only [opKey_eq_iff]

/-- **The latencies of an operation** are those of the tiers that report it, each once. -/
lemma latencyByOp_filter (op : String) :
    (((latencyByOp table warmupS).map fun l => (⟨l.concurrency, l.op, l.quantiles⟩ :
      OpLatency)).filter fun l => l.op = op) =
      (tiersOf (afterWarmup warmupS table) op).map fun c =>
        ⟨c, op, latencyAt (afterWarmup warmupS table) c op⟩ := by
  have hmono : StrictMono fun c : ℤ => (toLex (c, op) : ℤ ×ₗ String) := by
    intro c d h
    simpa [Prod.Lex.lt_iff] using h
  have hkeys : (sorted ((afterWarmup warmupS table).map fun row =>
      (toLex (row.concurrency, row.op) : ℤ ×ₗ String)).dedup).filter
        (fun k => (ofLex k).2 = op) =
      (tiersOf (afterWarmup warmupS table) op).map fun c => toLex (c, op) := by
    refine filter_sorted_dedup hmono fun k => ?_
    simp only [List.mem_map, List.mem_filter, decide_eq_true_eq]
    constructor
    · rintro ⟨⟨row, hrow, rfl⟩, rfl⟩
      exact ⟨row.concurrency, ⟨row, ⟨hrow, rfl⟩, rfl⟩, rfl⟩
    · rintro ⟨c, ⟨row, ⟨hrow, rfl⟩, rfl⟩, rfl⟩
      exact ⟨⟨row, hrow, rfl⟩, rfl⟩
  rw [latencyByOp, groupBy_some, opTiers_of_repetitions, List.map_map, List.map_map,
    List.filter_map]
  refine (congrArg (List.map _) hkeys).trans ?_
  rw [List.map_map]
  refine List.map_congr_left fun c _ => ?_
  show (⟨c, op, (opTierOf (toLex (c, op)) ((opRepetitions table warmupS).filter fun o =>
    opTierKey o = toLex (c, op))).quantiles⟩ : OpLatency) = _
  rw [opRepetitions_filter, quantiles_opTierOf]

end Operations

/-! ### The curve -/

section CurveOfTable

variable (std : List ℚ → ℚ) (sqrt : ℚ → ℚ) (runId : String) (table : List TableRow) (warmupS : ℚ)

lemma mem_tiersOf {rows : List TableRow} {op : String} {c : ℤ} :
    c ∈ tiersOf rows op ↔ ∃ row ∈ rows, row.op = op ∧ row.concurrency = c := by
  simp [tiersOf, and_assoc]

lemma strict_tiersOf (rows : List TableRow) (op : String) :
    (tiersOf rows op).Pairwise (· < ·) := by
  exact strict_sortOn id (l := ((rows.filter fun r => r.op = op).map
    fun r => r.concurrency).dedup) (by simpa using List.nodup_dedup _)

/-- The tiers an operation is reported in are among all of them. -/
lemma filter_concurrencies (rows : List TableRow) (op : String) :
    (concurrencies (rows.map TableRow.toMetricsRow)).filter (fun c => c ∈ tiersOf rows op) =
      tiersOf rows op := by
  have hall := filter_sorted_dedup (l := (rows.map TableRow.toMetricsRow).map
    MetricsRow.concurrency) (p := fun c => c ∈ tiersOf rows op)
    (m := (rows.filter fun r => r.op = op).map fun r => r.concurrency) strictMono_id fun c => by
      simp only [decide_eq_true_eq, mem_tiersOf, List.map_map, List.mem_map, List.mem_filter,
        Function.comp_apply]
      constructor
      · rintro ⟨-, row, hrow, hop, rfl⟩
        exact ⟨_, ⟨row, ⟨hrow, hop⟩, rfl⟩, rfl⟩
      · rintro ⟨-, ⟨row, ⟨hrow, hop⟩, rfl⟩, rfl⟩
        exact ⟨⟨row, hrow, rfl⟩, row, hrow, hop, rfl⟩
  rw [concurrencies, hall]
  exact List.map_id _

/-- The throughputs of the tiers. -/
lemma perTier_sweepOf : (sweepOf std sqrt runId table warmupS).perTier =
    (concurrencies ((afterWarmup warmupS table).map TableRow.toMetricsRow)).map fun c =>
      ⟨c, roundTo 3 (throughputAt ((afterWarmup warmupS table).map TableRow.toMetricsRow) c)⟩ := by
  have hpairs := congrArg (List.map fun p : ℤ × Option ℚ =>
    (⟨p.1, p.2.getD 0⟩ : MatchedThroughput.Tier))
    (meanTotalTps_perTier std sqrt (runOf runId table) warmupS)
  rw [List.map_map, List.map_map, metrics_afterWarmup] at hpairs
  exact hpairs

/-- One point at most comes of a tier. -/
lemma points_of_tier {tiers : List ℤ} (hnodup : tiers.Nodup) (f : ℤ → Quantiles) (op : String)
    (c : ℤ) (tps : ℚ) :
    (((tiers.map fun d => (⟨d, op, f d⟩ : OpLatency)).filter fun l => l.concurrency = c).map
      fun l => (⟨c, op, tps, l.quantiles⟩ : CurvePoint)) =
      if c ∈ tiers then [⟨c, op, tps, f c⟩] else [] := by
  rw [List.filter_map]
  have hfilter : tiers.filter ((fun l : OpLatency => decide (l.concurrency = c)) ∘
      fun d => (⟨d, op, f d⟩ : OpLatency)) = if c ∈ tiers then [c] else [] := by
    have hcongr : ((fun l : OpLatency => decide (l.concurrency = c)) ∘
        fun d => (⟨d, op, f d⟩ : OpLatency)) = fun d => d == c := by
      funext d
      exact (beq_eq_decide d c).symm
    rw [hcongr, List.filter_beq]
    split
    · next h => rw [List.count_eq_one_of_mem hnodup h, List.replicate_one]
    · next h => rw [List.count_eq_zero_of_not_mem h, List.replicate_zero]
  rw [hfilter]
  split <;> rfl

lemma flatMap_selected {A B : Type} (s : List A) [DecidableEq A] (f : A → B) (l : List A) :
    (l.flatMap fun a => if a ∈ s then [f a] else []) = (l.filter fun a => a ∈ s).map f := by
  induction l with
  | nil => rfl
  | cons a l ih =>
    by_cases ha : a ∈ s
    · rw [List.flatMap_cons, ih, if_pos ha, List.filter_cons_of_pos (by simpa using ha)]
      rfl
    · rw [List.flatMap_cons, ih, if_neg ha, List.filter_cons_of_neg (by simpa using ha)]
      rfl

/-- **The curve of an operation** has a point for each tier that reports it, by increasing
concurrency: the mean over the tier's repetitions of their means over intervals. -/
theorem curve_of_table (op : String) :
    throughputLatencyCurve (sweepOf std sqrt runId table warmupS) op =
      if afterWarmup warmupS table = [] then .error .noTier
      else if tiersOf (afterWarmup warmupS table) op = [] then
        .error (.unknownOp runId op (sorted (table.map fun r => r.op).dedup))
      else .ok ((tiersOf (afterWarmup warmupS table) op).map
        (pointAt (afterWarmup warmupS table) op)) := by
  have hlat : (sweepOf std sqrt runId table warmupS).latencyByOp.filter (fun l => l.op = op) =
      (tiersOf (afterWarmup warmupS table) op).map fun c =>
        ⟨c, op, latencyAt (afterWarmup warmupS table) c op⟩ := latencyByOp_filter table warmupS op
  unfold throughputLatencyCurve
  dsimp only
  rw [hlat, perTier_sweepOf]
  by_cases hempty : afterWarmup warmupS table = []
  · rw [if_pos hempty, if_pos (by rw [hempty]; rfl)]
  rw [if_neg hempty, if_neg (by simpa using concurrencies_ne_nil (by simpa using hempty))]
  by_cases hnone : tiersOf (afterWarmup warmupS table) op = []
  · rw [if_pos hnone, if_pos (by rw [hnone]; rfl)]
    rfl
  · rw [if_neg hnone, if_neg (by simpa using hnone)]
    have hpoints : ∀ c : ℤ, (((tiersOf (afterWarmup warmupS table) op).map fun d =>
        (⟨d, op, latencyAt (afterWarmup warmupS table) d op⟩ : OpLatency)).filter fun l =>
          l.concurrency = c).map (fun l => (⟨c, op, roundTo 3 (throughputAt
            ((afterWarmup warmupS table).map TableRow.toMetricsRow) c), l.quantiles⟩ :
              CurvePoint)) =
        if c ∈ tiersOf (afterWarmup warmupS table) op then
          [pointAt (afterWarmup warmupS table) op c] else [] := fun c =>
      points_of_tier ((strict_tiersOf _ op).imp fun h => h.ne) _ op c _
    rw [List.flatMap_map]
    simp only [hpoints]
    rw [flatMap_selected, filter_concurrencies]
    refine congrArg Except.ok (sortOn_eq_self _ (List.pairwise_map.mpr ?_))
    exact (strict_tiersOf _ op).imp fun h => h.le

end CurveOfTable

/-! ### The order of the rows -/

section Order

lemma tickOf_perm {rows rows' : List MetricsRow} (h : rows.Perm rows') (k : ℤ ×ₗ ℤ ×ₗ ℚ) :
    tickOf rows k = tickOf rows' k := by
  have hgroup := h.filter fun r => interval r = k
  have htps : ((rows.filter fun r => interval r = k).map MetricsRow.tps).sum =
      ((rows'.filter fun r => interval r = k).map MetricsRow.tps).sum := (hgroup.map _).sum_eq
  have herrors : ((rows.filter fun r => interval r = k).map MetricsRow.errorsCum).max? =
      ((rows'.filter fun r => interval r = k).map MetricsRow.errorsCum).max? :=
    max?_perm (hgroup.map _)
  have hops : ((rows.filter fun r => interval r = k).map MetricsRow.op).dedup.length =
      ((rows'.filter fun r => interval r = k).map MetricsRow.op).dedup.length :=
    (hgroup.map _).dedup.length_eq
  have hwalls : ((rows.filter fun r => interval r = k).filterMap MetricsRow.wallOffsetS).min? =
      ((rows'.filter fun r => interval r = k).filterMap MetricsRow.wallOffsetS).min? :=
    min?_perm (hgroup.filterMap _)
  have hweights : ((rows.filter fun r => interval r = k).map fun r => r.tps * r.p50Ms).sum =
      ((rows'.filter fun r => interval r = k).map fun r => r.tps * r.p50Ms).sum :=
    (hgroup.map _).sum_eq
  unfold tickOf
  dsimp only
  rw [htps, herrors, hops, hwalls, hweights]

lemma ticks_perm {run run' : Run} (h : run.metrics.Perm run'.metrics) (warmupS : ℚ) :
    ticks run warmupS = ticks run' warmupS := by
  have hrows : (steadyRows run warmupS).Perm (steadyRows run' warmupS) := by
    unfold steadyRows
    split
    · exact h.filter _
    · exact h
  have hkeys : sorted ((steadyRows run warmupS).map interval).dedup =
      sorted ((steadyRows run' warmupS).map interval).dedup :=
    sorted_dedup_congr fun k => (hrows.map interval).mem_iff
  rw [ticks_eq, ticks_eq, hkeys]
  exact List.map_congr_left fun k _ => tickOf_perm hrows k

lemma meanQuantiles_perm {l l' : List Quantiles} (h : l.Perm l') :
    meanQuantiles l = meanQuantiles l' := by
  have hmean : ∀ f : Quantiles → ℚ, mean (l.map f) = mean (l'.map f) := fun f => by
    rw [mean, mean, (h.map f).sum_eq, (h.map f).length_eq]
  simp only [meanQuantiles, hmean]

lemma latencyByOp_perm {table table' : List TableRow} (h : table.Perm table') (warmupS : ℚ) :
    latencyByOp table warmupS = latencyByOp table' warmupS := by
  have hrows : (afterWarmup warmupS table).Perm (afterWarmup warmupS table') := by
    unfold afterWarmup
    split
    · exact h.filter _
    · exact h
  have hreps : opRepetitions table warmupS = opRepetitions table' warmupS := by
    refine map_groupBy_perm hrows fun k g g' hg => ?_
    unfold opRepetitionOf
    rw [hg.length_eq, meanQuantiles_perm (hg.map _)]
  rw [latencyByOp, latencyByOp, hreps]

variable (std : List ℚ → ℚ) (sqrt : ℚ → ℚ) (runId : String)

/-- **The order of the rows does not matter** for what is compared of a run. -/
theorem sweepOf_perm {table table' : List TableRow} (h : table.Perm table') (warmupS : ℚ) :
    sweepOf std sqrt runId table warmupS = sweepOf std sqrt runId table' warmupS := by
  have hticks : ticks (runOf runId table) warmupS = ticks (runOf runId table') warmupS :=
    ticks_perm (h.map _) warmupS
  have hops : sorted (table.map fun r => r.op).dedup = sorted (table'.map fun r => r.op).dedup :=
    sorted_dedup_congr fun op => (h.map fun r => r.op).mem_iff
  unfold sweepOf perTier perRepetition
  rw [hticks, hops, latencyByOp_perm h warmupS]

end Order

end CrdbLab.TierCurves
