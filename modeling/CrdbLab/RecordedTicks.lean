import CrdbLab.Ticks
import CrdbLab.Loader
import CrdbLab.Lib.Rounding

/-!
The rows a run writes for its samples, and the throughput they are folded to again.

The sweep and the chaos run write one row for each operation of an interval. The loader sums
the throughput of an interval's rows whatever their labels are.
-/

namespace CrdbLab.RecordedTicks

open CrdbLab.Lib.Rounding CrdbLab.Lib.Extended CrdbLab.Lib.KeySort CrdbLab.Lib.OrderStat
open CrdbLab.Workload CrdbLab.Ticks

/-- One row of `metrics.csv` as written. An empty cell is missing. -/
structure Row where
  elapsedS : Number
  wallOffsetS : Option ℚ
  concurrency : ℤ
  repetition : ℤ
  op : String
  tps : Number
  tpsCum : Option Number
  errorsCum : ℤ
  p50Ms : Number
  p95Ms : Number
  p99Ms : Number
  pmaxMs : Number
  deriving DecidableEq, Repr

/-! ### Writing -/

/-- The cells both writers fill from a sample. -/
def sampleRow (elapsedS : Number) (wallOffsetS : Option ℚ) (concurrency repetition : ℤ)
    (op : String) (s : Sample) : Row where
  elapsedS := elapsedS
  wallOffsetS := wallOffsetS
  concurrency := concurrency
  repetition := repetition
  op := op
  tps := s.tps
  tpsCum := s.values.lookup "tps_cum"
  errorsCum := s.errorsCum
  p50Ms := s.latencyMs "p50"
  p95Ms := s.latencyMs "p95"
  p99Ms := s.latencyMs "p99"
  pmaxMs := s.latencyMs "pmax"

/-- One tier of a sweep. -/
structure Tier where
  tZero : ℚ
  warmupS : ℚ
  concurrency : ℤ
  repetition : ℤ
  deriving DecidableEq, Repr

/-- The rows of one tick after the warm-up. -/
def tickRows (tier : Tier) (timed : ℚ × Tick) : List Row :=
  if Number.le timed.2.elapsedS (.finite tier.warmupS) then []
  else timed.2.byOp.map fun p =>
    sampleRow timed.2.elapsedS (some (roundTo 3 (timed.1 - tier.tZero))) tier.concurrency
      tier.repetition p.1 p.2

/-- The rows of a tier; a stream that is refused leaves none. -/
def tierRows (tier : Tier) (arrivals : List (ℚ × Sample)) : List Row :=
  match groupTimedTicks arrivals with
  | .ok timed => timed.flatMap (tickRows tier)
  | .error _ => []

/-- What the rows of a chaos run take from elsewhere. -/
structure Chaos where
  concurrency : ℤ
  observedAt : Number → Option ℚ

def chaosRows (chaos : Chaos) (samples : List Sample) : List Row :=
  (periodic samples).map fun s =>
    sampleRow s.elapsedS ((chaos.observedAt s.elapsedS).map (roundTo 3)) chaos.concurrency 1 s.op s

/-! ### Reading -/

structure RecordedTick where
  concurrency : ℤ
  repetition : ℤ
  elapsedS : Number
  totalTps : Number
  deriving DecidableEq, Repr

/-- Where an offset stands in the order of the table. -/
def rank : Number → ℤ ×ₗ ℚ
  | .finite x => toLex (0, x)
  | .infinite negative => toLex (if negative then -1 else 1, 0)
  | .nan => toLex (2, 0)

/-- The interval a row belongs to. -/
def Row.interval (r : Row) : ℤ × ℤ × Number := (r.concurrency, r.repetition, r.elapsedS)

def intervalOrder (key : ℤ × ℤ × Number) : ℤ ×ₗ ℤ ×ₗ ℤ ×ₗ ℚ :=
  toLex (key.1, toLex (key.2.1, rank key.2.2))

/-- A missing value does not count in a sum. -/
def numbers (l : List Number) : List Number := l.filter (· ≠ .nan)

def recordedTick (rows : List Row) (key : ℤ × ℤ × Number) : RecordedTick where
  concurrency := key.1
  repetition := key.2.1
  elapsedS := key.2.2
  totalTps := (numbers ((rows.filter fun r => r.interval = key).map Row.tps)).sum

/-- The throughput of each interval of the table. A row without an offset has no interval. -/
def ticks (rows : List Row) : List RecordedTick :=
  let keys := ((rows.filter fun r => r.elapsedS ≠ .nan).map Row.interval).dedup
  (sortOn intervalOrder keys).map (recordedTick rows)

/-! ### Tables of numbers -/

/-- The row holds the numbers of the other one. -/
structure Reads (r : Row) (m : Loader.MetricsRow) : Prop where
  elapsed : r.elapsedS = .finite m.elapsedS
  concurrency : r.concurrency = m.concurrency
  repetition : r.repetition = m.repetition
  tps : r.tps = .finite m.tps

/-- An interval of a table of numbers. -/
def keyOf (key : ℤ ×ₗ ℤ ×ₗ ℚ) : ℤ × ℤ × Number :=
  ((ofLex key).1, (ofLex (ofLex key).2).1, .finite (ofLex (ofLex key).2).2)

lemma keyOf_injective : Function.Injective keyOf := by
  rintro ⟨c, r, x⟩ ⟨d, s, y⟩ h
  have hkeys : (c, r, Number.finite x) = (d, s, Number.finite y) := h
  cases hkeys
  rfl

lemma intervalOrder_keyOf (k l : ℤ ×ₗ ℤ ×ₗ ℚ) :
    intervalOrder (keyOf k) ≤ intervalOrder (keyOf l) ↔ k ≤ l := by
  simp [intervalOrder, keyOf, rank, Prod.Lex.le_iff]

lemma Reads.interval {r : Row} {m : Loader.MetricsRow} (h : Reads r m) :
    r.interval = keyOf (Loader.interval m) := by
  rw [Row.interval, h.elapsed, h.concurrency, h.repetition]
  rfl

lemma numbers_finite (l : List ℚ) : numbers (l.map Number.finite) = l.map Number.finite := by
  refine List.filter_eq_self.mpr fun x hx => ?_
  obtain ⟨y, -, rfl⟩ := List.mem_map.mp hx
  simp

lemma sum_finite (l : List ℚ) : (l.map Number.finite).sum = .finite l.sum := by
  induction l with
  | nil => rfl
  | cons x l ih => rw [List.map_cons, List.sum_cons, ih, Number.finite_add, List.sum_cons]

lemma tps_of_finite {rows : List Row} {metrics : List Loader.MetricsRow}
    (h : List.Forall₂ Reads rows metrics) (key : ℤ ×ₗ ℤ ×ₗ ℚ) :
    (rows.filter fun r => r.interval = keyOf key).map Row.tps =
      ((metrics.filter fun m => Loader.interval m = key).map Loader.MetricsRow.tps).map
        .finite := by
  induction h with
  | nil => rfl
  | @cons r m rows metrics hr _ ih =>
    by_cases hm : Loader.interval m = key
    · have hkey : r.interval = keyOf key := by rw [hr.interval, hm]
      rw [List.filter_cons_of_pos (by simpa using hkey),
        List.filter_cons_of_pos (by simpa using hm)]
      rw [List.map_cons, List.map_cons, List.map_cons, ih, hr.tps]
    · have hkey : r.interval ≠ keyOf key := by
        rw [hr.interval]
        exact fun he => hm (keyOf_injective he)
      rw [List.filter_cons_of_neg (by simpa using hkey),
        List.filter_cons_of_neg (by simpa using hm)]
      exact ih

lemma intervals_of_finite {rows : List Row} {metrics : List Loader.MetricsRow}
    (h : List.Forall₂ Reads rows metrics) :
    rows.map Row.interval = (metrics.map Loader.interval).map keyOf := by
  induction h with
  | nil => rfl
  | cons hr _ ih => rw [List.map_cons, ih, hr.interval, List.map_cons, List.map_cons]

/-- **On a table of numbers** the totals are those of the loader's ticks. -/
theorem ticks_of_finite {rows : List Row} {run : Loader.Run}
    (h : List.Forall₂ Reads rows run.metrics) :
    ticks rows = (Loader.ticks run 0).map fun t =>
      ⟨t.concurrency, t.repetition, .finite t.elapsedS, .finite t.totalTps⟩ := by
  have hkeys := intervals_of_finite h
  have hall : (rows.filter fun r => r.elapsedS ≠ .nan) = rows := by
    refine List.filter_eq_self.mpr fun r hr => ?_
    have hmem : r.interval ∈ rows.map Row.interval := List.mem_map_of_mem hr
    rw [hkeys] at hmem
    obtain ⟨key, -, hkey⟩ := List.mem_map.mp hmem
    have helapsed : r.elapsedS = .finite (ofLex (ofLex key).2).2 :=
      (congrArg (fun k => k.2.2) hkey).symm
    simp [helapsed]
  have hsort : sortOn intervalOrder ((run.metrics.map Loader.interval).map keyOf).dedup =
      (sorted (run.metrics.map Loader.interval).dedup).map keyOf := by
    rw [List.dedup_map_of_injective keyOf_injective]
    refine (List.map_insertionSort _ _ keyOf _ fun a _ b _ => ?_).symm
    exact (intervalOrder_keyOf a b).symm
  have htotal : ∀ key, (recordedTick rows (keyOf key)).totalTps =
      .finite (Loader.tickOf run.metrics key).totalTps := by
    intro key
    show (numbers ((rows.filter fun r => r.interval = keyOf key).map Row.tps)).sum = _
    rw [tps_of_finite h, numbers_finite, sum_finite]
    rfl
  rw [ticks, hall, hkeys, hsort, Loader.ticks, List.map_map, List.map_map]
  refine List.map_congr_left fun key _ => ?_
  have hdef : recordedTick rows (keyOf key) = ⟨(keyOf key).1, (keyOf key).2.1, (keyOf key).2.2,
      (recordedTick rows (keyOf key)).totalTps⟩ := rfl
  rw [Function.comp_apply, hdef, htotal]
  rfl

end CrdbLab.RecordedTicks
