import CrdbLab.SweepRun

/-!
The account of a sweep against the analysis of its table.

A tier is clean if its lines are those of operations with finite numbers. The rows of clean tiers
are found again in the table by their concurrency and repetition, whatever tiers were run around
them, and the analysis makes of them what the account says.
-/

namespace CrdbLab.SweepAgreement

open CrdbLab.Lib.Dictionary CrdbLab.Lib.Rounding CrdbLab.Lib.Extended CrdbLab.Lib.Loops
open CrdbLab.Workload CrdbLab.Ticks CrdbLab.RecordedTicks CrdbLab.SweepRun
open CrdbLab.TierAggregation (TableRow meanNumber onFinite)

/-! ### Clean tiers -/

open CrdbLab.ThroughputAgreement
open CrdbLab.ChaosRun (value intervalTps)

/-- Intervals of lines of operations whose numbers are finite. -/
structure Measured (arrivals : List (ℚ × Sample)) (stream : Stream) : Prop where
  covers : stream.Covers (arrivals.map Prod.snd)
  separated : stream.Separated
  operations : ∀ i ∈ stream.intervals, ∀ s ∈ i.lines, ¬ IsTotal s.op
  finiteOffset : ∀ i ∈ stream.intervals, ∃ x, i.offset = .finite x
  finiteTps : ∀ i ∈ stream.intervals, ∀ s ∈ i.lines, ∃ x, s.tps = .finite x
  finiteP50 : ∀ i ∈ stream.intervals, ∀ s ∈ i.lines, ∃ x, s.latencyMs "p50" = .finite x

/-- The intervals of a tier after the warm-up. -/
def kept (tier : Tier) (stream : Stream) : List Interval :=
  stream.intervals.filter fun i => Steady tier i

/-- The lines of these intervals. -/
def keptLines (tier : Tier) (stream : Stream) : List Sample :=
  (kept tier stream).flatMap Interval.lines

section Tier

variable {arrivals : List (ℚ × Sample)} {stream : Stream} {tier : Tier}

lemma mem_kept {i : Interval} :
    i ∈ kept tier stream ↔ i ∈ stream.intervals ∧ Steady tier i := by
  simp [kept]

lemma Measured.timed (m : Measured arrivals stream) :
    ∃ timed, groupTimedTicks arrivals = .ok timed ∧
      timed.map Prod.snd = stream.intervals.map Interval.tick := by
  have hticks := groupTimedTicks_ticks arrivals
  rw [groupTicks_of_separated m.covers m.separated] at hticks
  cases htimed : groupTimedTicks arrivals with
  | error e =>
    rw [htimed] at hticks
    cases hticks
  | ok timed =>
    rw [htimed] at hticks
    exact ⟨timed, rfl, by simpa [Except.map] using hticks⟩

/-- The kept ticks are those of the kept intervals. -/
lemma keptTicks_eq {timed : List (ℚ × Tick)}
    (h : timed.map Prod.snd = stream.intervals.map Interval.tick) :
    (keptTicks tier.warmupS timed).map Prod.snd = (kept tier stream).map Interval.tick := by
  have hleft : (keptTicks tier.warmupS timed).map Prod.snd =
      (timed.map Prod.snd).filter fun t => ¬ Number.le t.elapsedS (.finite tier.warmupS) := by
    rw [List.filter_map]
    rfl
  rw [hleft, h, List.filter_map, kept]
  refine congrArg (List.map Interval.tick) (List.filter_congr fun i _ => decide_eq_decide.mpr ?_)
  exact iff_of_eq (Bool.not_eq_true _)

/-- What the rows of a tier hold of its lines. -/
lemma tierRows_map {B : Type} {f : Row → B} {g : Sample → B} {timed : List (ℚ × Tick)}
    (h : timed.map Prod.snd = stream.intervals.map Interval.tick)
    (hfg : ∀ (wall : Option ℚ) (s : Sample),
      f (sampleRow s.elapsedS wall tier.concurrency tier.repetition s.op s) = g s) :
    (timed.flatMap (tickRows tier)).map f = (keptLines tier stream).map g := by
  have htick : ∀ (arrived : ℚ) (i : Interval), (tickRows tier (arrived, i.tick)).map f =
      if Steady tier i then i.lines.map g else [] := by
    intro arrived i
    have hoffset : i.tick.elapsedS = i.offset := rfl
    unfold tickRows
    by_cases hi : Steady tier i
    · have hle : Number.le i.offset (.finite tier.warmupS) = false := hi
      rw [if_pos hi, hoffset, hle, if_neg Bool.false_ne_true, List.map_map, Interval.tick,
        List.map_map]
      refine List.map_congr_left fun s hs => ?_
      simp only [Function.comp_apply]
      rw [← i.elapsed s hs]
      exact hfg _ s
    · have hle : Number.le i.offset (.finite tier.warmupS) = true := by
        simpa [Steady] using hi
      rw [if_neg hi, hoffset, hle]
      rfl
  unfold keptLines kept
  generalize stream.intervals = intervals at h
  induction intervals generalizing timed with
  | nil =>
    obtain rfl := List.map_eq_nil_iff.mp h
    rfl
  | cons i intervals ih =>
    obtain ⟨⟨arrived, tick⟩, rest, rfl⟩ := List.exists_cons_of_ne_nil
      (show timed ≠ [] by rintro rfl; simp at h)
    obtain ⟨rfl, hrest⟩ : tick = i.tick ∧ rest.map Prod.snd = intervals.map Interval.tick := by
      simpa using h
    rw [List.flatMap_cons, List.map_append, htick, ih hrest]
    by_cases hi : Steady tier i
    · rw [if_pos hi, List.filter_cons_of_pos (by simpa using hi), List.flatMap_cons,
        List.map_append]
    · rw [if_neg hi, List.filter_cons_of_neg (by simpa using hi), List.nil_append]

/-! ### The account of a clean tier -/

lemma finite_of {x : Number} (h : ∃ y, x = .finite y) : x = .finite (value x) :=
  (ChaosRun.finite_value h).symm

lemma map_finite {f : Sample → Number}
    (h : ∀ i ∈ stream.intervals, ∀ s ∈ i.lines, ∃ x, f s = .finite x) {lines : List Sample}
    (hlines : ∀ s ∈ lines, s ∈ keptLines tier stream) :
    lines.map f = (lines.map fun s => value (f s)).map .finite := by
  rw [List.map_map]
  refine List.map_congr_left fun s hs => ?_
  obtain ⟨i, hi, hs⟩ := List.mem_flatMap.mp (hlines s hs)
  exact finite_of (h i (mem_kept.mp hi).1 s hs)

lemma Measured.totalTps (m : Measured arrivals stream) {i : Interval}
    (hi : i ∈ stream.intervals) : i.tick.totalTps = .finite (intervalTps i) := by
  have htps : i.lines.map Sample.tps = (i.lines.map fun s => value s.tps).map .finite := by
    rw [List.map_map]
    exact List.map_congr_left fun s hs => finite_of (m.finiteTps i hi s hs)
  show ((counted i.lines).map Sample.tps).sum = _
  rw [ChaosRun.counted_of_operations (m.operations i hi), htps, sum_finite]
  rfl

lemma mean?_finite (l : List ℚ) :
    mean? (l.map .finite) = if l = [] then none else some (.finite (CrdbLab.Lib.Recent.mean l)) := by
  unfold mean?
  by_cases h : l = []
  · rw [h]
    rfl
  · rw [if_neg h, if_neg (by simpa using h), meanNumber, sum_finite, List.length_map]
    rfl

/-- What the account of a tier says of its intervals. -/
structure Accounts (tier : Tier) (stream : Stream) (t : TierSummary) : Prop where
  concurrency : t.concurrency = tier.concurrency
  repetition : t.repetition = tier.repetition
  ticks : t.ticksRecorded = (kept tier stream).length
  throughput : t.meanTotalTps =
    if kept tier stream = [] then none
    else some (.finite (roundTo 2 (CrdbLab.Lib.Recent.mean ((kept tier stream).map intervalTps))))
  latency : ∀ op, t.meanP50Ms.get? op =
    if (keptLines tier stream).filter (fun s => s.op = op) = [] then none
    else some (.finite (roundTo 3 (CrdbLab.Lib.Recent.mean
      (((keptLines tier stream).filter fun s => s.op = op).map fun s => value (s.latencyMs "p50")))))

lemma medians_eq {ticks : List (ℚ × Tick)}
    (h : ticks.map Prod.snd = (kept tier stream).map Interval.tick) :
    medians ticks = (keptLines tier stream).map fun s => (s.op, s.latencyMs "p50") := by
  have hmap : medians ticks = (ticks.map Prod.snd).flatMap fun t =>
      t.byOp.map fun e => (e.1, e.2.latencyMs "p50") := by
    rw [List.flatMap_map]
    rfl
  rw [hmap, h, List.flatMap_map, keptLines, List.map_flatMap]
  refine List.flatMap_congr fun i _ => ?_
  rw [Interval.tick, List.map_map]
  rfl

/-- The mean of an operation's medians. -/
lemma bind_medians {lines : List Sample} {op : String}
    (h : (lines.filter fun s => s.op = op).map (fun s => s.latencyMs "p50") =
      ((lines.filter fun s => s.op = op).map fun s => value (s.latencyMs "p50")).map .finite) :
    (if op ∈ (lines.map fun s => (s.op, s.latencyMs "p50")).map Prod.fst then
        some (((lines.map fun s => (s.op, s.latencyMs "p50")).filter fun e => e.1 = op).map Prod.snd)
      else none).bind (fun values => (mean? values).map (onFinite (roundTo 3))) =
      if lines.filter (fun s => s.op = op) = [] then none
      else some (.finite (roundTo 3 (CrdbLab.Lib.Recent.mean
        ((lines.filter fun s => s.op = op).map fun s => value (s.latencyMs "p50"))))) := by
  have hvalues : ((lines.map fun s => (s.op, s.latencyMs "p50")).filter fun e => e.1 = op).map
      Prod.snd = ((lines.filter fun s => s.op = op).map fun s =>
        value (s.latencyMs "p50")).map .finite := by
    rw [List.filter_map, List.map_map]
    exact h
  by_cases hnone : lines.filter (fun s => s.op = op) = []
  · have hop : op ∉ (lines.map fun s => (s.op, s.latencyMs "p50")).map Prod.fst := by
      simpa [List.filter_eq_nil_iff] using hnone
    rw [if_neg hop, if_pos hnone]
    rfl
  · have hop : op ∈ (lines.map fun s => (s.op, s.latencyMs "p50")).map Prod.fst := by
      simpa [List.filter_eq_nil_iff] using hnone
    rw [if_pos hop, if_neg hnone, hvalues, Option.bind_some, mean?_finite,
      if_neg (by simpa using hnone)]
    rfl

/-- **A clean tier is run to its end**: its rows are those of its lines after the warm-up, and its
account is what they say. -/
lemma runTier_measured {spec : SweepSpec} {tZero tierStart : ℚ} {plan : ℤ × ℤ}
    {lines : List (ℚ × String)} (hcollect : collect {} lines = .ok arrivals)
    (m : Measured arrivals stream) :
    ∃ outcome, runTier spec tZero plan tierStart lines = .ok outcome ∧
      Accounts (Spec.tier spec tZero plan) stream outcome.summary ∧
      ∃ timed : List (ℚ × Tick), timed.map Prod.snd = stream.intervals.map Interval.tick ∧
        outcome.rows = timed.flatMap (tickRows (Spec.tier spec tZero plan)) := by
  obtain ⟨timed, htimed, hticks⟩ := m.timed
  have hkept := @keptTicks_eq stream (Spec.tier spec tZero plan) timed hticks
  have hlength := congrArg List.length hkept
  rw [List.length_map, List.length_map] at hlength
  have htotals : (keptTicks (Spec.tier spec tZero plan).warmupS timed).map
      (fun p => p.2.totalTps) =
      ((kept (Spec.tier spec tZero plan) stream).map intervalTps).map .finite := by
    have h := congrArg (List.map Tick.totalTps) hkept
    rw [List.map_map, List.map_map] at h
    rw [List.map_map]
    refine h.trans (List.map_congr_left fun i hi => ?_)
    exact m.totalTps (mem_kept.mp hi).1
  unfold runTier
  simp only [hcollect, htimed, Except.mapError, bind, Except.bind, pure, Except.pure]
  refine ⟨_, rfl, ⟨rfl, rfl, hlength, ?_, fun op => ?_⟩, timed, hticks, rfl⟩
  · show (mean? ((keptTicks (Spec.tier spec tZero plan).warmupS timed).map
      fun p => p.2.totalTps)).map (onFinite (roundTo 2)) = _
    rw [htotals, mean?_finite]
    by_cases hnone : kept (Spec.tier spec tZero plan) stream = []
    · rw [if_pos hnone, if_pos (by rw [hnone]; rfl)]
      rfl
    · rw [if_neg hnone, if_neg (by simpa using hnone)]
      rfl
  · show ((Dict.collect (medians (keptTicks (Spec.tier spec tZero plan).warmupS timed))).filterMap
      fun _ values => (mean? values).map (onFinite (roundTo 3))).get? op = _
    rw [Dict.get?_filterMap, Dict.get?_collect, medians_eq hkept]
    exact bind_medians (map_finite m.finiteP50 fun s hs => (List.mem_filter.mp hs).1)

end Tier

/-! ### The rows of a clean tier in the table -/

open CrdbLab.Lib.KeySort CrdbLab.Lib.OrderStat CrdbLab.Lib.Recent CrdbLab.Lib.Blocks
open CrdbLab.Loader (MetricsRow Run)
open CrdbLab.TierAggregation CrdbLab.TierCurves

/-- What the analysis reads of a row, and of the line the row was written for. -/
def rowCells (r : TableRow) : ℚ × String × ℚ × ℚ := (r.elapsedS, r.op, r.tps, r.p50Ms)

def lineCells (s : Sample) : ℚ × String × ℚ × ℚ :=
  (value s.elapsedS, s.op, value s.tps, value (s.latencyMs "p50"))

/-- The rows of the table with the tier's concurrency and repetition are those of its lines. -/
def Holds (table : List TableRow) (tier : Tier) (stream : Stream) : Prop :=
  (table.filter fun r => r.concurrency = tier.concurrency ∧ r.repetition = tier.repetition).map
    rowCells = (keptLines tier stream).map lineCells

section Held

variable {arrivals : List (ℚ × Sample)} {stream : Stream} {tier : Tier} {table : List TableRow}

lemma filter_metrics (table : List TableRow) (p : MetricsRow → Bool) :
    (table.map TableRow.toMetricsRow).filter p =
      (table.filter fun r => p r.toMetricsRow).map TableRow.toMetricsRow := by
  rw [List.filter_map]
  rfl

lemma Measured.kept_increasing (m : Measured arrivals stream) :
    ((kept tier stream).map fun i => value i.offset).Pairwise (· < ·) := by
  have hsub : (kept tier stream).Sublist stream.intervals := List.filter_sublist
  have hpair := List.pairwise_map.mp stream.increasing
  refine List.pairwise_map.mpr ((hpair.sublist hsub).imp_of_mem fun {i j} hi hj hlt => ?_)
  exact ChaosRun.value_lt (m.finiteOffset i (mem_kept.mp hi).1)
    (m.finiteOffset j (mem_kept.mp hj).1) hlt

/-- **The intervals of the repetition** are the tier's. -/
lemma Measured.intervalsAt_eq (m : Measured arrivals stream) (h : Holds table tier stream) :
    intervalsAt (table.map TableRow.toMetricsRow) tier.concurrency tier.repetition =
      (kept tier stream).map fun i => value i.offset := by
  have hcells := congrArg (List.map Prod.fst) h
  rw [List.map_map, List.map_map] at hcells
  have helapsed : ((table.map TableRow.toMetricsRow).filter fun row =>
      row.concurrency = tier.concurrency ∧ row.repetition = tier.repetition).map
        MetricsRow.elapsedS = (keptLines tier stream).map fun s => value s.elapsedS := by
    rw [filter_metrics, List.map_map]
    exact hcells
  rw [intervalsAt, helapsed]
  refine eq_of_mem_iff id (strict_sortOn id (by simpa using List.nodup_dedup _))
    m.kept_increasing fun x => ?_
  simp only [mem_sortOn, List.mem_dedup, List.mem_map, keptLines, List.mem_flatMap]
  constructor
  · rintro ⟨s, ⟨i, hi, hs⟩, rfl⟩
    exact ⟨i, hi, by rw [i.elapsed s hs]⟩
  · rintro ⟨i, hi, rfl⟩
    obtain ⟨s, hs⟩ := List.exists_mem_of_ne_nil i.lines i.nonempty
    exact ⟨s, ⟨i, hi, hs⟩, by rw [i.elapsed s hs]⟩

/-- The throughput of an interval in the table is that of its lines. -/
lemma Measured.totalAt_eq (m : Measured arrivals stream) (h : Holds table tier stream)
    {i : Interval} (hi : i ∈ kept tier stream) :
    totalAt (table.map TableRow.toMetricsRow) tier.concurrency tier.repetition (value i.offset) =
      intervalTps i := by
  have hcells := congrArg (fun l : List (ℚ × String × ℚ × ℚ) =>
    (l.filter fun c => c.1 = value i.offset).map fun c => c.2.2.1) h
  rw [List.filter_map, List.filter_map, List.map_map, List.map_map, List.filter_filter] at hcells
  have hlines : (keptLines tier stream).filter ((fun c : ℚ × String × ℚ × ℚ =>
      decide (c.1 = value i.offset)) ∘ lineCells) = i.lines := by
    have hnodup : ((kept tier stream).map Interval.offset).Nodup :=
      stream.nodup.sublist (List.filter_sublist.map Interval.offset)
    rw [← filter_lines hnodup hi]
    refine List.filter_congr fun s hs => decide_eq_decide.mpr ?_
    obtain ⟨j, hj, hs⟩ := List.mem_flatMap.mp hs
    obtain ⟨x, hx⟩ := m.finiteOffset i (mem_kept.mp hi).1
    obtain ⟨y, hy⟩ := m.finiteOffset j (mem_kept.mp hj).1
    rw [lineCells, j.elapsed s hs, hx, hy]
    simp [value]
  rw [hlines] at hcells
  rw [totalAt, filter_metrics, List.map_map]
  have hrows : table.filter (fun r => decide (r.toMetricsRow.concurrency = tier.concurrency ∧
      r.toMetricsRow.repetition = tier.repetition ∧ r.toMetricsRow.elapsedS = value i.offset)) =
      table.filter (fun a => ((fun c : ℚ × String × ℚ × ℚ => decide (c.1 = value i.offset)) ∘
        rowCells) a && decide (a.concurrency = tier.concurrency ∧
          a.repetition = tier.repetition)) := by
    refine List.filter_congr fun r _ => ?_
    rw [Function.comp_apply, ← Bool.decide_and]
    exact decide_eq_decide.mpr and_rotate.symm
  rw [hrows]
  exact congrArg List.sum hcells

/-- The medians of an operation in the table are those of its lines. -/
lemma p50_of_table (h : Holds table tier stream) (op : String) :
    (table.filter fun row => row.concurrency = tier.concurrency ∧
        row.repetition = tier.repetition ∧ row.op = op).map (fun row => row.p50Ms) =
      ((keptLines tier stream).filter fun s => s.op = op).map fun s =>
        value (s.latencyMs "p50") := by
  have hcells := congrArg (fun l : List (ℚ × String × ℚ × ℚ) =>
    (l.filter fun c => c.2.1 = op).map fun c => c.2.2.2) h
  rw [List.filter_map, List.filter_map, List.map_map, List.map_map, List.filter_filter] at hcells
  have hrows : table.filter (fun r => decide (r.concurrency = tier.concurrency ∧
      r.repetition = tier.repetition ∧ r.op = op)) =
      table.filter (fun a => ((fun c : ℚ × String × ℚ × ℚ => decide (c.2.1 = op)) ∘
        rowCells) a && decide (a.concurrency = tier.concurrency ∧
          a.repetition = tier.repetition)) := by
    refine List.filter_congr fun r _ => ?_
    rw [Function.comp_apply, ← Bool.decide_and]
    exact decide_eq_decide.mpr and_rotate.symm
  rw [hrows]
  exact hcells

end Held

/-! ### The whole sweep -/

/-- The lines are read, as intervals of lines of operations with finite numbers. -/
def Clean (lines : List (ℚ × String)) : Prop :=
  ∃ arrivals stream, collect {} lines = .ok arrivals ∧ Measured arrivals stream

/-- What a clean tier leaves: its rows, and its account. -/
def Leaves (spec : SweepSpec) (tZero : ℚ) (plan : ℤ × ℤ) (part : List Row × TierSummary) : Prop :=
  ∃ arrivals stream, Measured arrivals stream ∧ Accounts (Spec.tier spec tZero plan) stream part.2 ∧
    ∃ timed : List (ℚ × Tick), timed.map Prod.snd = stream.intervals.map Interval.tick ∧
      part.1 = timed.flatMap (tickRows (Spec.tier spec tZero plan))

/-- A tier is asked about its rows exactly once. -/
lemma finishProbe_ok (counters : Counters) (corroborated : Bool) :
    ∃ check rate, finishProbe counters corroborated = .ok (⟨[check]⟩, rate) := by
  cases counters with
  | cockroach before after =>
    simp only [finishProbe, RowMatch.RowMatchProbe.finish, RowMatch.RowMatchProbe.start,
      RowMatch.PreflightReport.add, List.nil_append]
    split_ifs <;> exact ⟨_, _, rfl⟩
  | postgres before after =>
    simp only [finishProbe, RowMatch.PostgresRowMatchProbe.finish,
      RowMatch.PostgresRowMatchProbe.start, RowMatch.PreflightReport.add, List.nil_append]
    split_ifs <;> exact ⟨_, _, rfl⟩

lemma checkTier_ok (quorumFloor : Option ℚ) (counters : Counters) (summary : TierSummary) :
    ∃ checks rate, checkTier quorumFloor counters summary = .ok (checks, rate) := by
  obtain ⟨check, rate, h⟩ := finishProbe_ok counters
    ((floorCheck quorumFloor summary).any FloorCheck.passed)
  unfold checkTier
  dsimp only
  rw [h]
  exact ⟨_, _, rfl⟩

section Sweep

variable {spec : SweepSpec} {tZero : ℚ} {quorumFloor : Option ℚ} {skipChecks : Bool}

/-- A clean tier adds its rows and its account. -/
lemma tierStep_clean (s : SweepState) (plan : ℤ × ℤ) {input : TierInput}
    (h : Clean input.lines) :
    ∃ s' part, tierStep spec tZero quorumFloor skipChecks s plan input = .ok s' ∧
      Leaves spec tZero plan part ∧ s'.rows = s.rows ++ part.1 ∧ s'.tiers = s.tiers ++ [part.2] := by
  obtain ⟨arrivals, stream, hcollect, m⟩ := h
  obtain ⟨outcome, houtcome, haccounts, timed, hticks, hrows⟩ := @runTier_measured _ _ spec tZero
    input.tierStart plan input.lines hcollect m
  unfold tierStep
  rw [houtcome]
  cases skipChecks with
  | true =>
    exact ⟨_, (outcome.rows, outcome.summary), rfl, ⟨arrivals, stream, m, haccounts, timed, hticks,
      hrows⟩, rfl, rfl⟩
  | false =>
    obtain ⟨checks, rate, hchecks⟩ := checkTier_ok quorumFloor input.counters outcome.summary
    simp only [Except.mapError, bind, Except.bind, Bool.false_eq_true, if_false, hchecks]
    have hrated : Accounts (Spec.tier spec tZero plan) stream
        { outcome.summary with rowMatchRate := some rate } :=
      ⟨haccounts.concurrency, haccounts.repetition, haccounts.ticks, haccounts.throughput,
        haccounts.latency⟩
    exact ⟨_, (outcome.rows, { outcome.summary with rowMatchRate := some rate }), rfl,
      ⟨arrivals, stream, m, hrated, timed, hticks, hrows⟩, rfl, rfl⟩

/-- **A sweep of clean tiers** leaves what they leave, in their order. -/
lemma runTiers_clean (s : SweepState) {plan : List (ℤ × ℤ)} {inputs : List TierInput}
    (hlen : inputs.length = plan.length) (h : ∀ input ∈ inputs, Clean input.lines) :
    ∃ final parts, runTiers spec tZero quorumFloor skipChecks s (plan.zip inputs) = .ok final ∧
      List.Forall₂ (Leaves spec tZero) plan parts ∧
      final.rows = s.rows ++ parts.flatMap Prod.fst ∧ final.tiers = s.tiers ++ parts.map Prod.snd := by
  induction plan generalizing s inputs with
  | nil => exact ⟨s, [], rfl, .nil, by simp, by simp⟩
  | cons p plan ih =>
    obtain ⟨input, inputs, rfl⟩ := List.exists_cons_of_length_eq_add_one hlen
    obtain ⟨s', part, hstep, hleaves, hrows, htiers⟩ := @tierStep_clean spec tZero quorumFloor
      skipChecks s p input (h input List.mem_cons_self)
    obtain ⟨final, parts, hrun, hall, hrows', htiers'⟩ := ih s'
      (by simpa using hlen) fun i hi => h i (List.mem_cons_of_mem _ hi)
    refine ⟨final, part :: parts, ?_, .cons hleaves hall, ?_, ?_⟩
    · rw [List.zip_cons_cons, runTiers, hstep]
      exact hrun
    · rw [hrows', hrows, List.append_assoc, List.flatMap_cons]
    · rw [htiers', htiers, List.append_assoc, List.map_cons, List.singleton_append]

end Sweep

/-! ### The tiers are distinct -/

lemma nodup_tierOrder {spec : SweepSpec} (h : spec.concurrencies.Nodup)
    (draw : (i : ℕ) → Fin (i + 1)) : (tierOrder spec draw).Nodup := by
  have hplan : ((List.range spec.repetitions).flatMap fun r : ℕ =>
      spec.concurrencies.map fun c => (c, (r : ℤ) + 1)).Nodup := by
    refine List.nodup_flatMap.mpr ⟨fun r _ => h.map fun c d hcd => (Prod.mk.inj hcd).1, ?_⟩
    refine (List.nodup_range).imp fun {r s} hne => ?_
    intro p hp hp'
    obtain ⟨c, -, rfl⟩ := List.mem_map.mp hp
    obtain ⟨d, -, hd⟩ := List.mem_map.mp hp'
    have := (Prod.mk.inj hd).2
    omega
  unfold tierOrder
  dsimp only
  split
  · exact (shuffle_perm draw _).nodup_iff.mpr hplan
  · exact hplan

/-! ### What is found in the table -/

lemma Leaves.key {spec : SweepSpec} {tZero : ℚ} {plan : ℤ × ℤ} {part : List Row × TierSummary}
    (h : Leaves spec tZero plan part) : (part.2.concurrency, part.2.repetition) = plan := by
  obtain ⟨arrivals, stream, m, haccounts, -⟩ := h
  rw [haccounts.concurrency, haccounts.repetition]
  rfl

/-- The rows of a tier carry its concurrency and repetition, and come after the warm-up. -/
lemma Leaves.rows {spec : SweepSpec} {tZero : ℚ} {plan : ℤ × ℤ} {part : List Row × TierSummary}
    (h : Leaves spec tZero plan part) : ∀ r ∈ part.1, (r.concurrency, r.repetition) = plan ∧
      (spec.warmupS : ℚ) < value r.elapsedS := by
  obtain ⟨arrivals, stream, m, haccounts, timed, hticks, hrows⟩ := h
  have hcells := @tierRows_map stream (Spec.tier spec tZero plan) _
    (fun r => ((r.concurrency, r.repetition), r.elapsedS)) (fun s => (plan, s.elapsedS)) timed
    hticks fun _ _ => rfl
  intro r hr
  have hmem : ((r.concurrency, r.repetition), r.elapsedS) ∈ (keptLines (Spec.tier spec tZero plan)
      stream).map fun s => (plan, s.elapsedS) := by
    rw [← hcells, ← hrows]
    exact List.mem_map.mpr ⟨r, hr, rfl⟩
  obtain ⟨s, hs, heq⟩ := List.mem_map.mp hmem
  obtain ⟨i, hi, hs⟩ := List.mem_flatMap.mp hs
  obtain ⟨hmember, hsteady⟩ := mem_kept.mp hi
  obtain ⟨x, hx⟩ := m.finiteOffset i hmember
  have hkey : plan = (r.concurrency, r.repetition) := congrArg Prod.fst heq
  have helapsed : s.elapsedS = r.elapsedS := congrArg Prod.snd heq
  refine ⟨hkey.symm, ?_⟩
  rw [← helapsed, i.elapsed s hs, hx]
  have hlt : Number.le (.finite x) (.finite (spec.warmupS : ℚ)) = false := by
    rw [← hx]
    exact hsteady
  simp only [Number.le, Number.lt, Bool.or_eq_false_iff, decide_eq_false_iff_not] at hlt
  refine lt_of_le_of_ne (not_lt.mp hlt.1) fun heq => ?_
  have hsame := hlt.2
  rw [← show (spec.warmupS : ℚ) = x from heq] at hsame
  simp at hsame

/-- Each part is that of its tier, and the tiers come in the order of the plan. -/
lemma leaves_parts {spec : SweepSpec} {tZero : ℚ} {plan : List (ℤ × ℤ)}
    {parts : List (List Row × TierSummary)}
    (hall : List.Forall₂ (Leaves spec tZero) plan parts) :
    (∀ p ∈ parts, Leaves spec tZero (p.2.concurrency, p.2.repetition) p) ∧
      parts.map (fun p => (p.2.concurrency, p.2.repetition)) = plan := by
  induction hall with
  | nil => exact ⟨fun p hp => absurd hp List.not_mem_nil, rfl⟩
  | @cons k part plan parts h _ ih =>
    refine ⟨fun p hp => ?_, by rw [List.map_cons, h.key, ih.2]⟩
    rcases List.mem_cons.mp hp with rfl | hp
    · rw [h.key]
      exact h
    · exact ih.1 p hp

/-- The table of the parts has each tier's rows. -/
lemma holds_of_leaves {spec : SweepSpec} {tZero : ℚ} {plan : List (ℤ × ℤ)}
    {parts : List (List Row × TierSummary)} (hall : List.Forall₂ (Leaves spec tZero) plan parts)
    (hnodup : plan.Nodup) {part : List Row × TierSummary} (hpart : part ∈ parts) :
    ∃ arrivals stream, Measured arrivals stream ∧
      Accounts ⟨tZero, spec.warmupS, part.2.concurrency, part.2.repetition⟩ stream part.2 ∧
      Holds ((parts.flatMap Prod.fst).map tableRow)
        ⟨tZero, spec.warmupS, part.2.concurrency, part.2.repetition⟩ stream := by
  obtain ⟨hleaves, hmarks⟩ := leaves_parts hall
  have hfilter : ((parts.flatMap Prod.fst).filter fun r =>
      (r.concurrency, r.repetition) = (part.2.concurrency, part.2.repetition)) = part.1 :=
    @filter_flatMap _ _ _ _ (fun r => (r.concurrency, r.repetition))
      (fun p => (p.2.concurrency, p.2.repetition)) _ _
      (fun p hp r hr => ((hleaves p hp).rows r hr).1) (hmarks ▸ hnodup) _ hpart
  obtain ⟨arrivals, stream, m, haccounts, timed, hticks, hrows⟩ := hleaves part hpart
  refine ⟨arrivals, stream, m, haccounts, ?_⟩
  have hcells := @tierRows_map stream
    ⟨tZero, spec.warmupS, part.2.concurrency, part.2.repetition⟩ _
    (fun r => rowCells (tableRow r)) lineCells timed hticks fun _ _ => rfl
  have hselect : ((parts.flatMap Prod.fst).map tableRow).filter (fun r =>
      r.concurrency = part.2.concurrency ∧ r.repetition = part.2.repetition) =
      part.1.map tableRow := by
    rw [List.filter_map]
    refine congrArg (List.map tableRow) (Eq.trans ?_ hfilter)
    refine List.filter_congr fun r _ => decide_eq_decide.mpr ?_
    rw [Prod.mk.injEq]
    exact Iff.rfl
  unfold Holds
  rw [hselect, List.map_map, hrows]
  exact hcells

/-! ### The account against the analysis -/

/-- The account of a tier is what the analysis finds in the table. -/
structure Agrees (std : List ℚ → ℚ) (runId : String) (table : List TableRow) (t : TierSummary) :
    Prop where
  missing : t.ticksRecorded = 0 → t.meanTotalTps = none ∧
    ∀ p ∈ perRepetition std (runOf runId table) 0,
      (p.concurrency, p.repetition) ≠ (t.concurrency, t.repetition)
  found : t.ticksRecorded ≠ 0 → ∃ p ∈ perRepetition std (runOf runId table) 0,
    p.concurrency = t.concurrency ∧ p.repetition = t.repetition ∧ p.ticks = t.ticksRecorded ∧
      t.meanTotalTps = some (.finite (roundTo 2 p.meanTotalTps))
  latency : ∀ op x, t.meanP50Ms.get? op = some x ↔ ∃ o ∈ opRepetitions table 0,
    o.concurrency = t.concurrency ∧ o.repetition = t.repetition ∧ o.op = op ∧
      x = .finite (roundTo 3 o.quantiles.p50Ms)

section Agreement

variable (std : List ℚ → ℚ) (runId : String)

lemma steadyRows_zero (table : List TableRow) :
    steadyRows (runOf runId table) 0 = table.map TableRow.toMetricsRow := by
  rw [metrics_afterWarmup]
  simp [afterWarmup]

lemma mem_perRepetition {table : List TableRow} {p : Repetition} :
    p ∈ perRepetition std (runOf runId table) 0 ↔ ∃ row ∈ table,
      repetitionAt std (runOf runId table) 0 row.concurrency row.repetition = p := by
  rw [perRepetition_eq, steadyRows_zero]
  simp only [List.map_map, List.mem_map, mem_sortOn, List.mem_dedup, Function.comp_apply]
  constructor
  · rintro ⟨-, ⟨row, hrow, rfl⟩, rfl⟩
    exact ⟨row, hrow, rfl⟩
  · rintro ⟨row, hrow, rfl⟩
    exact ⟨_, ⟨row, hrow, rfl⟩, rfl⟩

lemma mem_opRepetitions {table : List TableRow} {o : OpRepetition} :
    o ∈ opRepetitions table 0 ↔ ∃ row ∈ table,
      opRepetitionAt table row.concurrency row.op row.repetition = o := by
  have hall : afterWarmup 0 table = table := by simp [afterWarmup]
  rw [opRepetitions, CrdbLab.Lib.Groups.groupBy_some, hall]
  simp only [List.map_map, List.mem_map, mem_sortOn, List.mem_dedup, Function.comp_apply]
  constructor
  · rintro ⟨-, ⟨row, hrow, rfl⟩, rfl⟩
    exact ⟨row, hrow, rfl⟩
  · rintro ⟨row, hrow, rfl⟩
    exact ⟨_, ⟨row, hrow, rfl⟩, rfl⟩

/-- The median of an operation in a repetition, over the table's rows. -/
lemma p50_opRepetitionAt (table : List TableRow) (c r : ℤ) (op : String) :
    (opRepetitionAt table c op r).quantiles.p50Ms = mean ((table.filter fun row =>
      row.concurrency = c ∧ row.repetition = r ∧ row.op = op).map fun row => row.p50Ms) := by
  show mean (((table.filter fun row => opKey row = toLex (c, toLex (r, op))).map
    TableRow.quantiles).map _) = _
  rw [List.map_map]
  simp only [opKey_eq_iff]
  rfl

variable {arrivals : List (ℚ × Sample)} {stream : Stream} {tier : Tier} {table : List TableRow}
  {t : TierSummary}

lemma exists_row_iff (h : Holds table tier stream) :
    (∃ row ∈ table, row.concurrency = tier.concurrency ∧ row.repetition = tier.repetition) ↔
      kept tier stream ≠ [] := by
  have hlen := congrArg List.length h
  rw [List.length_map, List.length_map] at hlen
  have hrows : (∃ row ∈ table, row.concurrency = tier.concurrency ∧
      row.repetition = tier.repetition) ↔ (table.filter fun r =>
        r.concurrency = tier.concurrency ∧ r.repetition = tier.repetition) ≠ [] := by
    simp [List.filter_eq_nil_iff]
  have hlines : keptLines tier stream = [] ↔ kept tier stream = [] := by
    rw [keptLines, List.flatMap_eq_nil_iff]
    refine ⟨fun hnil => ?_, fun hnil => by simp [hnil]⟩
    by_contra hne
    obtain ⟨i, hi⟩ := List.exists_mem_of_ne_nil _ hne
    exact i.nonempty (hnil i hi)
  rw [hrows, Ne, Ne, ← List.length_eq_zero_iff, hlen, List.length_eq_zero_iff, hlines]

/-- **A tier's account agrees** with a table that has its rows. -/
lemma agrees_of_holds (m : Measured arrivals stream) (ha : Accounts tier stream t)
    (h : Holds table tier stream) : Agrees std runId table t where
  missing := by
    intro hzero
    have hnone : kept tier stream = [] := by
      rw [ha.ticks, List.length_eq_zero_iff] at hzero
      exact hzero
    refine ⟨by rw [ha.throughput, if_pos hnone], fun p hp hkey => ?_⟩
    obtain ⟨row, hrow, rfl⟩ := (mem_perRepetition std runId).mp hp
    obtain ⟨hc, hr⟩ := Prod.mk.inj hkey
    refine (exists_row_iff h).mp ⟨row, hrow, ?_, ?_⟩ hnone
    · exact hc.trans ha.concurrency
    · exact hr.trans ha.repetition
  found := by
    intro hne
    have hkept : kept tier stream ≠ [] := fun hnil => hne (by rw [ha.ticks, hnil]; rfl)
    obtain ⟨row, hrow, hc, hr⟩ := (exists_row_iff h).mpr hkept
    have hintervals := m.intervalsAt_eq h
    refine ⟨_, (mem_perRepetition std runId).mpr ⟨row, hrow, rfl⟩, hc.trans ha.concurrency.symm,
      hr.trans ha.repetition.symm, ?_, ?_⟩
    · rw [hc, hr]
      show ((intervalsAt (steadyRows (runOf runId table) 0) tier.concurrency
        tier.repetition).map _).length = _
      rw [steadyRows_zero, List.length_map, hintervals, List.length_map, ha.ticks]
    · rw [hc, hr, meanTotalTps_repetitionAt, steadyRows_zero, hintervals, List.map_map,
        ha.throughput, if_neg hkept]
      have htotals : (kept tier stream).map (totalAt (table.map TableRow.toMetricsRow)
          tier.concurrency tier.repetition ∘ fun i => value i.offset) =
          (kept tier stream).map intervalTps :=
        List.map_congr_left fun i hi => m.totalAt_eq h hi
      rw [htotals]
  latency := by
    intro op x
    have hp50 := p50_of_table h op
    have hnil : (table.filter fun row => row.concurrency = tier.concurrency ∧
        row.repetition = tier.repetition ∧ row.op = op) = [] ↔
        (keptLines tier stream).filter (fun s => s.op = op) = [] := by
      rw [← List.map_eq_nil_iff (f := fun row : TableRow => row.p50Ms), hp50, List.map_eq_nil_iff]
    rw [ha.latency op]
    constructor
    · intro hx
      split at hx
      · cases hx
      · next hsome =>
        obtain ⟨row, hmem⟩ := List.exists_mem_of_ne_nil _ (fun hn => hsome (hnil.mp hn))
        obtain ⟨hrow, hcells⟩ := List.mem_filter.mp hmem
        obtain ⟨hc, hr, hop⟩ := of_decide_eq_true hcells
        refine ⟨_, mem_opRepetitions.mpr ⟨row, hrow, rfl⟩, hc.trans ha.concurrency.symm,
          hr.trans ha.repetition.symm, hop, ?_⟩
        rw [p50_opRepetitionAt, hc, hr, hop, hp50]
        exact (Option.some.inj hx).symm
    · rintro ⟨o, ho, hc, hr, hop, rfl⟩
      obtain ⟨row, hrow, rfl⟩ := mem_opRepetitions.mp ho
      have hc : row.concurrency = tier.concurrency := hc.trans ha.concurrency
      have hr : row.repetition = tier.repetition := hr.trans ha.repetition
      have hop : row.op = op := hop
      have hsome : (keptLines tier stream).filter (fun s => s.op = op) ≠ [] := fun hn => by
        have hempty := hnil.mpr hn
        exact List.ne_nil_of_mem (List.mem_filter.mpr ⟨hrow, by simp [hc, hr, hop]⟩) hempty
      rw [if_neg hsome, p50_opRepetitionAt, hc, hr, hop, hp50]

end Agreement

/-- The analysis may leave out the warm-up again, which is gone already. -/
lemma afterWarmup_again {table : List TableRow} {warmupS : ℚ}
    (h : ∀ r ∈ table, warmupS < r.elapsedS) : afterWarmup warmupS table = table := by
  unfold afterWarmup
  split
  · exact List.filter_eq_self.mpr fun r hr => by simpa using h r hr
  · rfl

lemma sweepOf_again (std : List ℚ → ℚ) (sqrt : ℚ → ℚ) (runId : String) {table : List TableRow}
    {warmupS : ℚ} (h : ∀ r ∈ table, warmupS < r.elapsedS) :
    sweepOf std sqrt runId table warmupS = sweepOf std sqrt runId table 0 := by
  have hrows : steadyRows (runOf runId table) warmupS = steadyRows (runOf runId table) 0 := by
    rw [steadyRows_zero, metrics_afterWarmup, afterWarmup_again h]
  have hlatency : latencyByOp table warmupS = latencyByOp table 0 := by
    unfold latencyByOp opRepetitions
    rw [afterWarmup_again h, show afterWarmup 0 table = table by simp [afterWarmup]]
  unfold sweepOf perTier perRepetition
  rw [ticks_eq, ticks_eq, hrows, hlatency]

/-- The rows are known to be without the warm-up if one was declared and there are any. -/
lemma alreadyTrimmed_iff (runId : String) {table : List TableRow} {warmupS : ℚ}
    (h : ∀ r ∈ table, warmupS < r.elapsedS) :
    (steadyStateWindow (some warmupS) (runOf runId table)).alreadyTrimmed = true ↔
      0 < warmupS ∧ table ≠ [] := by
  have hall : ∀ x ∈ (runOf runId table).metrics.map MetricsRow.elapsedS, warmupS < x := by
    intro x hx
    obtain ⟨m, hm, rfl⟩ := List.mem_map.mp hx
    obtain ⟨r, hr, rfl⟩ := List.mem_map.mp hm
    exact h r hr
  show (decide (0 < warmupS) && (((runOf runId table).metrics.map
    MetricsRow.elapsedS).min?).any fun x => decide (warmupS < x)) = true ↔ _
  rw [Bool.and_eq_true, decide_eq_true_eq]
  refine and_congr_right fun _ => ?_
  cases hmin : ((runOf runId table).metrics.map MetricsRow.elapsedS).min? with
  | none =>
    have hnil : table = [] := by simpa [runOf] using hmin
    simp [hnil]
  | some x =>
    have hne : table ≠ [] := by
      rintro rfl
      simp [runOf] at hmin
    simpa [hne] using hall x (List.min?_mem hmin)

/-- **The account of a sweep is what the analysis of its table finds**, in whatever order the tiers
were run: a row for each tier that kept an interval and for no other, with the same number of
intervals, the same mean throughput and the same latencies. What is compared of the run does not
change if the warm-up is left out once more, or if the rows are in another order. -/
theorem sweep_agrees (std : List ℚ → ℚ) (sqrt : ℚ → ℚ) (runId : String) {spec : SweepSpec}
    (hdistinct : spec.concurrencies.Nodup) (draw : (i : ℕ) → Fin (i + 1)) (tZero : ℚ)
    (quorumFloor : Option ℚ) (skipChecks : Bool) {inputs : List TierInput}
    (hlen : inputs.length = (tierOrder spec draw).length)
    (hclean : ∀ input ∈ inputs, Clean input.lines) :
    ∃ final, runTiers spec tZero quorumFloor skipChecks {} ((tierOrder spec draw).zip inputs) =
        .ok final ∧
      final.tiers.map (fun t => (t.concurrency, t.repetition)) = tierOrder spec draw ∧
      (∀ t ∈ final.tiers, Agrees std runId final.table t) ∧
      (∀ p ∈ perRepetition std (runOf runId final.table) 0, ∃ t ∈ final.tiers,
        t.concurrency = p.concurrency ∧ t.repetition = p.repetition) ∧
      (∀ warmupS : ℚ, warmupS ≤ spec.warmupS →
        sweepOf std sqrt runId final.table warmupS = sweepOf std sqrt runId final.table 0) ∧
      ((steadyStateWindow (some spec.warmupS) (runOf runId final.table)).alreadyTrimmed = true ↔
        0 < spec.warmupS ∧ final.table ≠ []) ∧
      ∀ table, table.Perm final.table →
        sweepOf std sqrt runId table 0 = sweepOf std sqrt runId final.table 0 := by
  obtain ⟨final, parts, hrun, hall, hrows, htiers⟩ := @runTiers_clean spec tZero quorumFloor
    skipChecks {} (tierOrder spec draw) inputs hlen hclean
  have htable : final.table = (parts.flatMap Prod.fst).map tableRow := by
    rw [SweepState.table, hrows]
    rfl
  have htiers : final.tiers = parts.map Prod.snd := htiers
  obtain ⟨hleaves, hmarks⟩ := leaves_parts hall
  have hlater : ∀ row ∈ final.table, (spec.warmupS : ℚ) < row.elapsedS := by
    intro row hrow
    rw [htable] at hrow
    obtain ⟨r, hr, rfl⟩ := List.mem_map.mp hrow
    obtain ⟨part, hpart, hr⟩ := List.mem_flatMap.mp hr
    exact ((hleaves part hpart).rows r hr).2
  refine ⟨final, hrun, ?_, ?_, ?_, ?_, ?_, fun table h => sweepOf_perm std sqrt runId h 0⟩
  · rw [htiers, List.map_map]
    exact hmarks
  · intro t ht
    rw [htiers] at ht
    obtain ⟨part, hpart, rfl⟩ := List.mem_map.mp ht
    obtain ⟨arrivals, stream, m, haccounts, hholds⟩ :=
      holds_of_leaves hall (nodup_tierOrder hdistinct draw) hpart
    rw [← htable] at hholds
    exact agrees_of_holds std runId m haccounts hholds
  · intro p hp
    obtain ⟨row, hrow, rfl⟩ := (mem_perRepetition std runId).mp hp
    rw [htable] at hrow
    obtain ⟨r, hr, rfl⟩ := List.mem_map.mp hrow
    obtain ⟨part, hpart, hr⟩ := List.mem_flatMap.mp hr
    obtain ⟨hc, hrep⟩ := Prod.mk.inj ((hleaves part hpart).rows r hr).1
    exact ⟨part.2, htiers ▸ List.mem_map_of_mem hpart, hc.symm, hrep.symm⟩
  · intro warmupS hle
    exact sweepOf_again std sqrt runId fun row hrow => hle.trans_lt (hlater row hrow)
  · rw [alreadyTrimmed_iff runId hlater]
    exact and_congr_left fun _ => Int.cast_pos

/-! ### A tier of three intervals, the first of them in the warm-up -/

def sampleOutput : List (ℚ × String) :=
  [(10, "_elapsed___errors__ops/sec(inst)___p50(ms)"), (11, "1.0s 0 50.0 9.0 read"),
    (12, "2.0s 0 120.0 3.0 read"), (12, "2.0s 0 30.0 9.0 update"), (13, "3.0s 0 80.0 5.0 read")]

def sampleLine (elapsedS : ℚ) (op : String) (tps p50 : ℚ) : Sample where
  kind := .periodic
  elapsedS := .finite elapsedS
  op := op
  errorsCum := 0
  values := (Finmap.singleton "tps" (.finite tps)).insert "p50_ms" (.finite p50)

def sampleArrivals : List (ℚ × Sample) :=
  [(11, sampleLine 1 "read" 50 9), (12, sampleLine 2 "read" 120 3),
    (12, sampleLine 2 "update" 30 9), (13, sampleLine 3 "read" 80 5)]

/-- The interval of a second. -/
def sampleInterval (second : ℚ) (lines : List (String × ℚ × ℚ)) (hne : lines ≠ [])
    (hops : (lines.map Prod.fst).Nodup) : Interval where
  mark := .finite second
  elements := lines.map fun l => sampleLine second l.1 l.2.1 l.2.2
  nonempty := fun h => hne (List.map_eq_nil_iff.mp h)
  same := by
    intro s hs
    obtain ⟨l, -, rfl⟩ := List.mem_map.mp hs
    rfl
  measured := by
    intro s hs
    obtain ⟨l, -, rfl⟩ := List.mem_map.mp hs
    rfl
  distinct := by
    rw [List.map_map]
    exact hops

def sampleIntervals : List Interval :=
  [sampleInterval 1 [("read", 50, 9)] (by decide) (by decide),
    sampleInterval 2 [("read", 120, 3), ("update", 30, 9)] (by decide) (by decide),
    sampleInterval 3 [("read", 80, 5)] (by decide) (by decide)]

def sampleStream : Stream where
  intervals := sampleIntervals
  increasing := by decide
  numbered := by decide

lemma tps_sampleLine (elapsedS : ℚ) (op : String) (tps p50 : ℚ) :
    (sampleLine elapsedS op tps p50).tps = .finite tps := by
  have hlookup : ((Finmap.singleton "tps" (.finite tps) : Values).insert "p50_ms"
      (.finite p50)).lookup "tps" = some (.finite tps) := by
    rw [Finmap.lookup_insert_of_ne _ (by decide), Finmap.lookup_singleton_eq]
  rw [Sample.tps, sampleLine, hlookup, Option.getD_some]

lemma p50_sampleLine (elapsedS : ℚ) (op : String) (tps p50 : ℚ) :
    (sampleLine elapsedS op tps p50).latencyMs "p50" = .finite p50 := by
  have hname : "p50" ++ "_ms" = "p50_ms" := by decide
  rw [Sample.latencyMs, hname, sampleLine, Finmap.lookup_insert, Option.getD_some]

lemma sampleOutput_clean : Clean sampleOutput := by
  have hseconds : ∀ i ∈ sampleIntervals, ∃ second lines hne hops,
      i = sampleInterval second lines hne hops := by
    intro i hi
    rcases List.mem_cons.mp hi with rfl | hi
    · exact ⟨_, _, _, _, rfl⟩
    rcases List.mem_cons.mp hi with rfl | hi
    · exact ⟨_, _, _, _, rfl⟩
    · exact ⟨_, _, _, _, List.mem_singleton.mp hi⟩
  have hlines : ∀ i ∈ sampleIntervals, ∀ s ∈ i.lines, ∃ second op tps p50,
      s = sampleLine second op tps p50 := by
    intro i hi s hs
    obtain ⟨second, lines, hne, hops, rfl⟩ := hseconds i hi
    obtain ⟨l, -, rfl⟩ := List.mem_map.mp hs
    exact ⟨_, _, _, _, rfl⟩
  refine ⟨sampleArrivals, sampleStream, by decide +kernel, ⟨?_, ?_, ?_, ?_, ?_, ?_⟩⟩
  · show periodic (sampleArrivals.map Prod.snd) = sampleIntervals.flatMap Interval.lines
    decide
  · show (sampleIntervals.map Interval.offset).IsChain fun x y => apart y x = true
    decide +kernel
  · show ∀ i ∈ sampleIntervals, ∀ s ∈ i.lines, ¬ (s.op = "total" ∨ s.op = "all")
    decide
  · intro i hi
    obtain ⟨second, lines, hne, hops, rfl⟩ := hseconds i hi
    exact ⟨second, rfl⟩
  · intro i hi s hs
    obtain ⟨second, op, tps, p50, rfl⟩ := hlines i hi s hs
    exact ⟨tps, tps_sampleLine second op tps p50⟩
  · intro i hi s hs
    obtain ⟨second, op, tps, p50, rfl⟩ := hlines i hi s hs
    exact ⟨p50, p50_sampleLine second op tps p50⟩

def sampleSpec : SweepSpec := ⟨[8], 1, true, 3, 1⟩

def sampleInputs : List TierInput :=
  [⟨10, sampleOutput, .cockroach ⟨0, 0⟩ ⟨200, 200⟩⟩]

theorem sampleSweep_agrees : sampleSpec.concurrencies.Nodup ∧
    ∃ final, runTiers sampleSpec 9 (some 2) false {}
        ((tierOrder sampleSpec fun i => Fin.last i).zip sampleInputs) = .ok final ∧
      final.tiers.map (fun t => (t.concurrency, t.repetition)) = [(8, 1)] := by
  obtain ⟨final, hrun, htiers, -⟩ := @sweep_agrees (fun _ => 0) (fun x => x) "bench"
    sampleSpec (by decide) (fun i => Fin.last i) 9 (some 2) false sampleInputs rfl
    fun input hinput => by
      rw [List.mem_singleton.mp hinput]
      exact sampleOutput_clean
  exact ⟨by decide, final, hrun, htiers⟩

end CrdbLab.SweepAgreement
