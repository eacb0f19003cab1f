import CrdbLab.ThroughputAgreement
import CrdbLab.Performance

/-!
A chaos run as it is measured, and the run it leaves to be loaded.

The live loop places each tick at the arrival of its first line. The rows are written when the
workload is over; they carry the same offset, rounded to three decimals, and what is loaded is the
double nearest to that text. The totals of the intervals are exact sums.
-/

namespace CrdbLab.ChaosRun

open CrdbLab.Lib.Rounding CrdbLab.Lib.Double CrdbLab.Lib.Extended CrdbLab.Lib.Blocks
open CrdbLab.Lib.KeySort CrdbLab.Lib.OrderStat CrdbLab.Ticks CrdbLab.RecordedTicks CrdbLab.ThroughputAgreement
open CrdbLab.Loader CrdbLab.Clocks CrdbLab.SteadyState CrdbLab.FindRecovery CrdbLab.Performance

/-- The number a finite cell holds. -/
def value : Number → ℚ
  | .finite x => x
  | _ => 0

/-- The readings of the harness clock are below this: it counts nanoseconds in 64 bits. -/
def clockRange : ℚ := 2 ^ 34

/-- Clock readings leave offsets of moderate size. -/
lemma abs_double_sub_le_range {x y : ℚ} (hx : |x| ≤ clockRange) (hy : |y| ≤ clockRange) :
    |double (x - y)| ≤ 2 ^ 35 + 1 := by
  have hx' := abs_le.mp hx
  have hy' := abs_le.mp hy
  have hsub : |x - y| ≤ 2 ^ 40 := by
    rw [abs_le]
    unfold clockRange at *
    constructor <;> norm_num at hx' hy' ⊢ <;> linarith
  have hdouble := abs_le.mp (abs_double_sub_le_of_abs_le hsub)
  rw [abs_le]
  unfold clockRange at *
  norm_num at hx' hy' hdouble ⊢
  constructor <;> linarith

/-- The lines of a chaos run with their arrivals on the harness clock: intervals of lines of
operations, with offsets and throughputs that are finite. -/
structure Measured where
  tZero : ℚ
  concurrency : ℤ
  recoveryThreshold : ℚ
  recoveryHoldS : ℚ
  atMonotonic : Option ℚ
  arrivals : List (ℚ × Workload.Sample)
  stream : Stream
  covers : stream.Covers (arrivals.map Prod.snd)
  separated : stream.Separated
  nonempty : stream.intervals ≠ []
  operations : ∀ i ∈ stream.intervals, ∀ s ∈ i.lines, ¬ IsTotal s.op
  finiteOffset : ∀ i ∈ stream.intervals, ∃ x, i.offset = .finite x
  finiteTps : ∀ i ∈ stream.intervals, ∀ s ∈ i.lines, ∃ x, s.tps = .finite x
  monotone : (arrivals.map Prod.fst).Pairwise (· ≤ ·)
  readings : ∀ p ∈ arrivals, |p.1| ≤ clockRange
  zeroReading : |tZero| ≤ clockRange
  faultReading : ∀ t ∈ atMonotonic, |t| ≤ clockRange

section Run

variable (m : Measured)

/-- The ticks with their arrivals, as the live loop receives them. -/
def Measured.timed : List (ℚ × Ticks.Tick) :=
  match groupTimedTicks m.arrivals with
  | .ok timed => timed
  | .error _ => []

/-- Throughput over time as the live loop collects it. -/
def Measured.series : List Sample :=
  m.timed.map fun p => ⟨double (p.1 - m.tZero), value p.2.totalTps⟩

/-- Where the tick of an elapsed offset was observed; of equal offsets the last one counts. -/
def Measured.observedAt (elapsedS : Number) : Option ℚ :=
  (m.timed.reverse.find? fun p => p.2.elapsedS = elapsedS).map fun p =>
    double (p.1 - m.tZero)

/-- `injected["at_offset_s"]`. -/
def Measured.faultOffset : Option ℚ := 
  m.atMonotonic.map fun at_ => roundDouble 3 (double (at_ - m.tZero))

/-- `performance_rto_s`, from the live series. -/
def Measured.performanceRtoS (sum : List ℚ → ℚ) : Option ℚ :=
  m.faultOffset.bind fun fault =>
    (recovered sum m.series m.recoveryThreshold m.recoveryHoldS fault).map (rtoOf fault)

/-- A row as the loader reads it. -/
def metricsRow (r : Row) : MetricsRow where
  elapsedS := value r.elapsedS
  wallOffsetS := r.wallOffsetS.map double
  concurrency := r.concurrency
  repetition := r.repetition
  op := r.op
  tps := value r.tps
  errorsCum := r.errorsCum
  p50Ms := value r.p50Ms

/-- The run that is loaded again. -/
def Measured.recordedRun (sum : List ℚ → ℚ) : Run where
  metrics := (chaosRows ⟨m.concurrency, m.observedAt⟩ (m.arrivals.map Prod.snd)).map metricsRow
  events :=
    { injectedAtOffsetS := m.faultOffset
      recoveryThreshold := some m.recoveryThreshold
      recoveryHoldS := some m.recoveryHoldS
      performanceRtoS := some (m.performanceRtoS sum) }

end Run

/-! ### The intervals with their arrivals -/

variable {m : Measured} {sum : List ℚ → ℚ}

lemma Measured.groupTimedTicks_eq (m : Measured) : groupTimedTicks m.arrivals = .ok m.timed := by
  have hticks := groupTimedTicks_ticks m.arrivals
  rw [groupTicks_of_separated m.covers m.separated] at hticks
  unfold Measured.timed
  cases htimed : groupTimedTicks m.arrivals with
  | ok timed => rfl
  | error e =>
    rw [htimed] at hticks
    cases hticks

/-- The ticks are those of the intervals. -/
lemma Measured.timed_ticks (m : Measured) :
    m.timed.map Prod.snd = m.stream.intervals.map Interval.tick := by
  have hticks := groupTimedTicks_ticks m.arrivals
  rw [groupTicks_of_separated m.covers m.separated, m.groupTimedTicks_eq] at hticks
  simpa [Except.map] using hticks

/-- The ticks arrive in order. -/
lemma Measured.timed_ordered (m : Measured) : (m.timed.map Prod.fst).Pairwise (· ≤ ·) :=
  Ticks.timed_ordered m.groupTimedTicks_eq m.monotone

lemma Measured.timed_mem (m : Measured) {p : ℚ × Ticks.Tick} (hp : p ∈ m.timed) :
    ∃ q ∈ m.arrivals, q.1 = p.1 := exists_arrival m.groupTimedTicks_eq hp

/-- Each interval with the arrival of its first line. -/
def Measured.placed (m : Measured) : List (ℚ × Interval) :=
  (m.timed.map Prod.fst).zip m.stream.intervals

lemma Measured.placed_intervals (m : Measured) :
    m.placed.map Prod.snd = m.stream.intervals := by
  have hlen := congrArg List.length m.timed_ticks
  simp only [List.length_map] at hlen
  exact List.map_snd_zip (by simp [hlen])

lemma Measured.timed_eq (m : Measured) : m.timed = m.placed.map fun p => (p.1, p.2.tick) := by
  calc m.timed = (m.timed.map Prod.fst).zip (m.timed.map Prod.snd) := List.zip_of_prod rfl rfl
    _ = (m.timed.map Prod.fst).zip (m.stream.intervals.map Interval.tick) := by
      rw [m.timed_ticks]
    _ = m.placed.map fun p => (p.1, p.2.tick) := List.zip_map_right

lemma Measured.mem_placed {p : ℚ × Interval} (hp : p ∈ m.placed) : p.2 ∈ m.stream.intervals := by
  rw [← m.placed_intervals]
  exact List.mem_map_of_mem hp

/-! ### The two series -/

/-- The throughput of an interval. -/
def intervalTps (i : Interval) : ℚ := (i.lines.map fun s => value s.tps).sum

lemma counted_of_operations {lines : List Workload.Sample} (h : ∀ s ∈ lines, ¬ IsTotal s.op) :
    counted lines = lines := by
  have hall : (lines.filter fun s => ¬ IsTotal s.op) = lines :=
    List.filter_eq_self.mpr fun s hs => by simpa using h s hs
  unfold counted
  rw [hall]
  split
  · rfl
  · next hnil => simp [not_not.mp hnil]

lemma finite_value {x : Number} (h : ∃ y, x = .finite y) : .finite (value x) = x := by
  obtain ⟨y, rfl⟩ := h
  rfl

lemma value_total {i : Interval} (hi : i ∈ m.stream.intervals) :
    value i.tick.totalTps = intervalTps i := by
  have htps : i.lines.map Workload.Sample.tps =
      (i.lines.map fun s => value s.tps).map .finite := by
    rw [List.map_map]
    exact List.map_congr_left fun s hs => (finite_value (m.finiteTps i hi s hs)).symm
  show value ((counted i.lines).map Workload.Sample.tps).sum = _
  rw [counted_of_operations (m.operations i hi), htps, sum_finite]
  rfl

lemma Measured.series_eq (m : Measured) :
    m.series = m.placed.map fun p => ⟨double (p.1 - m.tZero), intervalTps p.2⟩ := by
  rw [Measured.series, m.timed_eq, List.map_map]
  refine List.map_congr_left fun p hp => ?_
  rw [Function.comp_apply, value_total (Measured.mem_placed hp)]

lemma Measured.series_ordered (m : Measured) : Ordered Sample.offsetS m.series := by
  have h := m.timed_ordered
  rw [List.pairwise_map] at h
  exact List.pairwise_map.mpr (h.imp fun hle => double_mono (sub_le_sub_right hle m.tZero))

lemma Measured.placed_nodup (m : Measured) : (m.placed.map fun p => p.2.offset).Nodup := by
  have h := m.stream.nodup
  rw [← m.placed_intervals, List.map_map] at h
  exact h

lemma Measured.observedAt_eq {p : ℚ × Interval} (hp : p ∈ m.placed) :
    m.observedAt p.2.offset = some (double (p.1 - m.tZero)) := by
  have hnodup : (m.placed.reverse.map fun p => p.2.tick.elapsedS).Nodup := by
    rw [List.map_reverse, List.nodup_reverse]
    exact m.placed_nodup
  have hfind : (m.placed.reverse.map fun p => (p.1, p.2.tick)).find?
      (fun q => q.2.elapsedS = p.2.offset) = some (p.1, p.2.tick) :=
    @find?_map_of_nodup _ _ _ _ (fun p : ℚ × Interval => (p.1, p.2.tick))
      (fun q => q.2.elapsedS) _ hnodup p (List.mem_reverse.mpr hp)
  unfold Measured.observedAt
  rw [m.timed_eq, ← List.map_reverse, hfind]
  rfl

/-! ### The rows that are loaded -/

/-- The row of a line, as it is loaded. -/
def lineRow (m : Measured) (p : ℚ × Interval) (s : Workload.Sample) : MetricsRow :=
  metricsRow (sampleRow p.2.offset (some (roundTo 3 (double (p.1 - m.tZero)))) m.concurrency 1 s.op s)

/-- The key of an interval's rows. -/
def intervalKey (m : Measured) (i : Interval) : ℤ ×ₗ ℤ ×ₗ ℚ :=
  toLex (m.concurrency, toLex (1, value i.offset))

/-- The rows of an interval. -/
def rowsOf (m : Measured) (p : ℚ × Interval) : Block Loader.interval where
  mark := intervalKey m p.2
  elements := p.2.lines.map (lineRow m p)
  nonempty := fun h => p.2.nonempty (List.map_eq_nil_iff.mp h)
  same := by
    intro r hr
    obtain ⟨s, -, rfl⟩ := List.mem_map.mp hr
    rfl

lemma Measured.metrics_eq (m : Measured) :
    (m.recordedRun sum).metrics = flat (m.placed.map (rowsOf m)) := by
  show (chaosRows ⟨m.concurrency, m.observedAt⟩ (m.arrivals.map Prod.snd)).map metricsRow = _
  have hcovers : periodic (m.arrivals.map Prod.snd) = m.placed.flatMap fun p => p.2.lines := by
    rw [m.covers, ← m.placed_intervals, List.flatMap_map]
  rw [chaosRows, hcovers, flat, List.flatMap_map, List.map_map, List.map_flatMap]
  refine List.flatMap_congr fun p hp => List.map_congr_left fun s hs => ?_
  rw [Function.comp_apply, p.2.elapsed s hs]
  dsimp only
  rw [Measured.observedAt_eq hp]
  rfl

lemma value_lt {x y : Number} (hx : ∃ a, x = .finite a) (hy : ∃ b, y = .finite b)
    (h : Number.lt x y = true) : value x < value y := by
  obtain ⟨a, rfl⟩ := hx
  obtain ⟨b, rfl⟩ := hy
  have hab : a < b := by simpa [Number.lt] using h
  exact hab

/-- The keys of the intervals increase. -/
lemma Measured.keys_increasing (m : Measured) :
    ((m.placed.map (rowsOf m)).map Block.mark).Pairwise (· < ·) := by
  have h := m.stream.increasing
  rw [← m.placed_intervals, List.map_map, List.pairwise_map] at h
  rw [List.map_map, List.pairwise_map]
  refine h.imp_of_mem fun {p q} hp hq hlt => ?_
  have hvalue := value_lt (m.finiteOffset p.2 (Measured.mem_placed hp))
    (m.finiteOffset q.2 (Measured.mem_placed hq)) hlt
  show intervalKey m p.2 < intervalKey m q.2
  simpa [intervalKey, Prod.Lex.lt_iff] using hvalue

/-- The tick that the rows of an interval are folded to. -/
lemma Measured.tickOf_eq {p : ℚ × Interval} (hp : p ∈ m.placed) :
    (tickOf (m.recordedRun sum).metrics (intervalKey m p.2)).totalTps = intervalTps p.2 ∧
      (tickOf (m.recordedRun sum).metrics (intervalKey m p.2)).wallOffsetS =
        some (roundDouble 3 (double (p.1 - m.tZero))) := by
  have hnodup : ((m.placed.map (rowsOf m)).map Block.mark).Nodup :=
    m.keys_increasing.imp fun h => h.ne
  have hgroup : (m.recordedRun sum).metrics.filter (fun r => interval r = intervalKey m p.2) =
      p.2.lines.map (lineRow m p) := by
    rw [m.metrics_eq]
    exact filter_flat hnodup (List.mem_map_of_mem hp)
  constructor
  · show (((m.recordedRun sum).metrics.filter fun r => interval r = intervalKey m p.2).map
      MetricsRow.tps).sum = _
    rw [hgroup, List.map_map]
    rfl
  · show (((m.recordedRun sum).metrics.filter fun r => interval r = intervalKey m p.2).filterMap
      MetricsRow.wallOffsetS).min? = _
    have hwalls : (p.2.lines.map (lineRow m p)).filterMap MetricsRow.wallOffsetS =
        List.replicate p.2.lines.length (roundDouble 3 (double (p.1 - m.tZero))) := by
      rw [List.filterMap_map, ← List.map_const']
      exact congrFun List.filterMap_eq_map' _
    rw [hgroup, hwalls]
    exact List.min?_replicate_of_pos (List.length_pos_iff.mpr p.2.nonempty)

/-- The loaded run carries the harness clock, so its alignment is measured. -/
lemma Measured.records (m : Measured) : recordsWallClock (m.recordedRun sum) = true := by
  obtain ⟨p, placed, hplaced⟩ := List.exists_cons_of_ne_nil
    (show m.placed ≠ [] by
      intro h
      have := m.placed_intervals
      rw [h] at this
      exact m.nonempty this.symm)
  obtain ⟨s, lines, hlines⟩ := List.exists_cons_of_ne_nil p.2.nonempty
  have hrow : lineRow m p s ∈ (m.recordedRun sum).metrics := by
    rw [m.metrics_eq, mem_flat]
    refine ⟨rowsOf m p, List.mem_map_of_mem (by simp [hplaced]), ?_⟩
    refine List.mem_map_of_mem ?_
    show s ∈ p.2.elements
    simp [hlines]
  exact List.any_eq_true.mpr ⟨_, hrow, rfl⟩

lemma Measured.align_exact (m : Measured) :
    ∃ alignment, align (m.recordedRun sum) = .ok alignment ∧
      onWall (m.recordedRun sum) alignment = true := by
  unfold align
  rw [if_pos m.records]
  exact ⟨_, rfl, by simp [onWall, m.records, ClockAlignment.exact]⟩

/-- A sample as it is recorded. -/
def recordedSample (s : Sample) : Sample := { s with offsetS := roundDouble 3 s.offsetS }

@[simp] lemma recordedSample_offsetS (s : Sample) :
    (recordedSample s).offsetS = roundDouble 3 s.offsetS := rfl

@[simp] lemma recordedSample_tps (s : Sample) : (recordedSample s).tps = s.tps := rfl

/-- The series as it is recorded. -/
def Measured.recordedSeries (m : Measured) : List Sample := m.series.map recordedSample

/-- **The loaded series** is the live one with its offsets rounded. -/
theorem Measured.series_recorded (m : Measured) {alignment : ClockAlignment}
    (h : onWall (m.recordedRun sum) alignment = true) :
    Performance.series (m.recordedRun sum) alignment = m.recordedSeries := by
  have hnodup : ((m.placed.map (rowsOf m)).map Block.mark).Nodup :=
    m.keys_increasing.imp fun h => h.ne
  have hkeys : sorted ((m.recordedRun sum).metrics.map interval).dedup =
      (m.placed.map (rowsOf m)).map Block.mark := by
    rw [m.metrics_eq, dedup_flat hnodup]
    exact sortOn_eq_self id (m.keys_increasing.imp fun h => h.le)
  have hticks : Loader.ticks (m.recordedRun sum) 0 =
      m.placed.map fun p => tickOf (m.recordedRun sum).metrics (intervalKey m p.2) := by
    unfold Loader.ticks
    dsimp only
    rw [if_neg (by simp), hkeys, List.map_map, List.map_map]
    rfl
  rw [Performance.series, hticks, List.filterMap_map, Measured.recordedSeries, m.series_eq,
    List.map_map]
  rw [← List.filterMap_eq_map]
  refine List.filterMap_congr fun p hp => ?_
  obtain ⟨htotal, hwall⟩ := @Measured.tickOf_eq m sum p hp
  simp [tickTime, h, htotal, hwall, recordedSample]

end CrdbLab.ChaosRun
