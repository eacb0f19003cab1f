import CrdbLab.ChaosRun
import CrdbLab.Lib.Dictionary

/-!
The offset of the generator's clock, summarised live and from the recorded rows.

The live summary takes one offset for each interval that was observed, and the upper of the two
middle ones where their number is even. The recorded rows carry the offset of an interval once
for each operation, rounded, and their median is the mean of the two middle ones. Differences and
means are those of doubles; a result that is rounded for the record is kept as the decimal.
-/

namespace CrdbLab.ClockOffsets

open CrdbLab.Lib.Rounding CrdbLab.Lib.Double CrdbLab.Lib.Extended CrdbLab.Lib.Dictionary
open CrdbLab.Lib.KeySort
open CrdbLab.Lib.OrderStat CrdbLab.Optional CrdbLab.Ticks CrdbLab.RecordedTicks
open CrdbLab.Loader CrdbLab.Clocks CrdbLab.ChaosRun

/-! ### The live summary -/

inductive Summary
  | unmeasured (detail : String)
  | measuredPerTick (generatorStartOffsetS minS maxS spreadS : ℚ) (samples : ℕ) (note : String)
  deriving DecidableEq, Repr

def Summary.method : Summary → String
  | .unmeasured _ => "unmeasured"
  | .measuredPerTick .. => "measured_per_tick"

/-- `clock.get("generator_start_offset_s")` -/
def Summary.generatorStartOffsetS : Summary → Option ℚ
  | .unmeasured _ => none
  | .measuredPerTick start .. => some start

/-- The offsets between the clocks, as they were observed. -/
def offsetsOf (observedAt : Dict ℚ ℚ) : List ℚ := 
  observedAt.entries.map fun e => double (e.2 - e.1)

def clockOffsets (observedAt : Dict ℚ ℚ) : Summary :=
  if observedAt.entries = [] then .unmeasured "no interval was observed live"
  else
    let offsets := sorted (offsetsOf observedAt)
    let median := orZero offsets[offsets.length / 2]?
    let first := orZero offsets.head?
    let last := orZero offsets.getLast?
    .measuredPerTick (roundTo 3 median) (roundTo 3 first) (roundTo 3 last)
      (roundTo 3 (double (last - first))) offsets.length
      ("elapsed_s + generator_start_offset_s = wall_offset_s. Offsets in " ++
        "events.json are on the harness clock; add this to any figure axis " ++
        "taken from the generator's elapsed_s before drawing the two together.")

/-! ### The recorded rows -/

/-- A chaos run whose samples were grouped to its end. -/
structure LiveRun where
  tZero : ℚ
  concurrency : ℤ
  arrivals : List (ℚ × Workload.Sample)
  timed : List (ℚ × Ticks.Tick)
  grouped : groupTimedTicks arrivals = .ok timed
  finite : ∀ s ∈ periodic (arrivals.map Prod.snd), ∃ x, s.elapsedS = .finite x

namespace LiveRun

variable (r : LiveRun)

/-- Where the elapsed offset of a tick was observed. -/
def observedAt : Dict ℚ ℚ :=
  Dict.ofList (r.timed.map fun p => (value p.2.elapsedS, double (p.1 - r.tZero)))

def lookup : Number → Option ℚ
  | .finite elapsedS => r.observedAt.get? elapsedS
  | _ => none

/-- `metrics.csv` as it is loaded. -/
def metrics : List MetricsRow :=
  (chaosRows ⟨r.concurrency, r.lookup⟩ (r.arrivals.map Prod.snd)).map metricsRow

/-- The rows of an interval. -/
def rowsAt (elapsedS : ℚ) : ℕ :=
  (periodic (r.arrivals.map Prod.snd)).countP fun s => s.elapsedS = .finite elapsedS

/-- Intervals were observed, and each has the same rows, of which there are some. -/
structure Uniform (m : ℕ) : Prop where
  observed : r.observedAt.entries ≠ []
  positive : 0 < m
  rows : ∀ e ∈ r.observedAt.entries, r.rowsAt e.1 = m

/-- The offsets between the clocks, with the harness clock as it is written. -/
def writtenOffsets : List ℚ := 
  r.observedAt.entries.map fun e => double (roundDouble 3 e.2 - e.1)

end LiveRun

/-! ### The middle of a list -/

/-- The middle entry, and of two the upper one. -/
def upperMiddle (offsets : List ℚ) : ℚ := orZero offsets[offsets.length / 2]?

def lowerMiddle (offsets : List ℚ) : ℚ := orZero offsets[offsets.length / 2 - 1]?

/-- The mean of the two middle entries, in doubles. -/
def meanMiddle (offsets : List ℚ) : ℚ :=
  double (double (lowerMiddle offsets + upperMiddle offsets) / 2)

lemma median_of_odd {l : List ℚ} (h : Odd l.length) :
    orZero (medianDouble l) = upperMiddle (sorted l) := by
  rw [medianDouble, if_pos (Nat.odd_iff.mp h), upperMiddle, length_sortOn]

lemma median_of_even {l : List ℚ} (hl : l ≠ []) (h : ¬ Odd l.length) :
    orZero (medianDouble l) = meanMiddle (sorted l) := by
  have hlen := List.length_pos_iff.mpr hl
  have hlow : l.length / 2 - 1 < (sorted l).length := by
    rw [length_sortOn]
    omega
  have hhigh : l.length / 2 < (sorted l).length := by
    rw [length_sortOn]
    omega
  rw [medianDouble, if_neg fun hodd => h (Nat.odd_iff.mpr hodd), meanMiddle, lowerMiddle, upperMiddle,
    length_sortOn, List.getElem?_eq_getElem hlow, List.getElem?_eq_getElem hhigh]
  rfl

/-- Among an even number of copies of each entry, both middle positions fall on one. -/
lemma below_middle_of_odd {n j : ℕ} (hn : n % 2 = 1) (hj : 0 < j) :
    (n * (2 * j) / 2 - 1) / (2 * j) = n / 2 := by
  obtain ⟨k, rfl⟩ := Nat.odd_iff.mpr hn
  have hhalf : (2 * k + 1) * (2 * j) / 2 = 2 * (k * j) + j := by
    rw [show (2 * k + 1) * (2 * j) = 2 * (2 * (k * j) + j) by ring]
    exact Nat.mul_div_cancel_left _ (by decide)
  have hk : (2 * k + 1) / 2 = k := by omega
  rw [hhalf, hk]
  refine Nat.div_eq_of_lt_le ?_ ?_
  · rw [show k * (2 * j) = 2 * (k * j) by ring]
    omega
  · rw [show (k + 1) * (2 * j) = 2 * (k * j) + 2 * j by ring]
    omega

/-- Among copies of an even number of entries, the two positions fall on neighbours. -/
lemma below_middle_of_even {n m : ℕ} (hn : n % 2 ≠ 1) (hm : 0 < m) :
    (n * m / 2 - 1) / m = n / 2 - 1 := by
  obtain ⟨k, rfl⟩ := Nat.even_iff.mpr (Nat.mod_two_ne_one.mp hn)
  have hhalf : (k + k) * m / 2 = k * m := by
    rw [show (k + k) * m = 2 * (k * m) by ring]
    exact Nat.mul_div_cancel_left _ (by decide)
  have hk : (k + k) / 2 = k := by omega
  rw [hhalf, hk]
  cases k with
  | zero => simp
  | succ k =>
    have hsucc : (k + 1) * m = k * m + m := by ring
    rw [Nat.add_sub_cancel]
    exact Nat.div_eq_of_lt_le (by omega) (by omega)

/-- The mean of a double with itself. -/
lemma mean_self_of_isDouble {x : ℚ} (h : IsDouble x) : double (double (x + x) / 2) = x := by
  have hsum : double (x + x) = x + x := h.add_self
  rw [hsum, add_self_div_two]
  exact h

/-- The median stays where every entry is copied as often. -/
lemma median_flatMap_replicate {m : ℕ} (hm : 0 < m) {l : List ℚ} (hl : ∀ x ∈ l, IsDouble x) :
    medianDouble (l.flatMap (List.replicate m)) = medianDouble l := by
  have hlen := length_flatMap_replicate m l
  have hhalf : l.length * m / 2 / m = l.length / 2 := by
    rw [Nat.div_div_eq_div_mul, Nat.mul_comm 2 m, Nat.mul_comm l.length m,
      Nat.mul_div_mul_left _ _ hm]
  unfold medianDouble
  simp only [sorted_flatMap_replicate, getElem?_flatMap_replicate hm, hlen, hhalf]
  by_cases hodd : l.length * m % 2 = 1
  · have hlodd : l.length % 2 = 1 := Nat.odd_iff.mp (Nat.odd_mul.mp (Nat.odd_iff.mpr hodd)).1
    rw [if_pos hodd, if_pos hlodd]
  · rw [if_neg hodd]
    split_ifs with hlodd
    · obtain ⟨j, rfl⟩ : 2 ∣ m := by
        by_contra hm2
        have hmodd : m % 2 = 1 := by omega
        exact hodd (Nat.odd_iff.mp (Nat.odd_mul.mpr ⟨Nat.odd_iff.mpr hlodd, Nat.odd_iff.mpr hmodd⟩))
      rw [below_middle_of_odd hlodd (by omega)]
      cases hmiddle : (sorted l)[l.length / 2]? with
      | none => rfl
      | some x =>
        have hx : x ∈ l := (mem_sortOn id).mp (List.mem_of_getElem? hmiddle)
        show some (double (double (x + x) / 2)) = some x
        rw [mean_self_of_isDouble (hl x hx)]
    · rw [below_middle_of_even hlodd hm]

/-! ### The rows carry every offset as often -/

section Rows

variable {r : LiveRun} {m : ℕ}

/-- The elapsed offsets of the rows. -/
def LiveRun.elapsed (r : LiveRun) : List ℚ :=
  (periodic (r.arrivals.map Prod.snd)).map fun s => value s.elapsedS

lemma LiveRun.finite_elapsed (r : LiveRun) {s : Workload.Sample}
    (hs : s ∈ periodic (r.arrivals.map Prod.snd)) : s.elapsedS = .finite (value s.elapsedS) :=
  (finite_value (r.finite s hs)).symm

lemma LiveRun.count_elapsed (r : LiveRun) (x : ℚ) : r.elapsed.count x = r.rowsAt x := by
  rw [LiveRun.elapsed, List.count_eq_countP, List.countP_map, LiveRun.rowsAt]
  refine List.countP_congr fun s hs => ?_
  rw [r.finite_elapsed hs]
  simp [value]

/-- The offsets that `align` takes the median of. -/
def rowOffsets (rows : List MetricsRow) : List ℚ :=
  rows.filterMap fun row => row.wallOffsetS.map fun wall => double (wall - row.elapsedS)

lemma LiveRun.rowOffsets_metrics (r : LiveRun) :
    rowOffsets r.metrics = r.elapsed.filterMap fun x =>
      (r.observedAt.get? x).map fun wall => double (roundDouble 3 wall - x) := by
  rw [rowOffsets, LiveRun.metrics, chaosRows, List.map_map, List.filterMap_map, LiveRun.elapsed,
    List.filterMap_map]
  refine List.filterMap_congr fun s hs => ?_
  have hlookup : r.lookup s.elapsedS = r.observedAt.get? (value s.elapsedS) := by
    rw [r.finite_elapsed hs]
    rfl
  simp [metricsRow, sampleRow, hlookup, Function.comp_def, roundDouble]

lemma LiveRun.Uniform.rowOffsets_perm (h : r.Uniform m) :
    (rowOffsets r.metrics).Perm (r.writtenOffsets.flatMap (List.replicate m)) := by
  rw [r.rowOffsets_metrics]
  refine Dict.filterMap_get?_perm (fun e he => ?_) fun x wall => double (roundDouble 3 wall - x)
  rw [r.count_elapsed]
  exact h.rows e he

lemma LiveRun.isDouble_writtenOffsets (r : LiveRun) : ∀ x ∈ r.writtenOffsets, IsDouble x := by
  intro x hx
  obtain ⟨e, -, rfl⟩ := List.mem_map.mp hx
  exact isDouble_double _

/-- **The median of the rows** is that of the intervals. -/
lemma LiveRun.Uniform.median_rowOffsets (h : r.Uniform m) :
    medianDouble (rowOffsets r.metrics) = medianDouble r.writtenOffsets := by
  rw [← median_flatMap_replicate h.positive r.isDouble_writtenOffsets]
  unfold medianDouble
  rw [h.rowOffsets_perm.length_eq, sorted_perm h.rowOffsets_perm]

end Rows

/-! ### Agreement -/

/-- Both summaries state an offset, and the two differ by a thousandth at most. -/
def Agree (r : LiveRun) (run : Run) : Prop :=
  ∃ start alignment offset, (clockOffsets r.observedAt).generatorStartOffsetS = some start ∧
    align run = .ok alignment ∧ alignment.offsetS = some offset ∧ |start - offset| ≤ 1 / 1000

/-- All values that are rounded to some whole thousandth lie between `x` and `y`. -/
def Skips (x y : ℚ) : Prop :=
  ∃ k : ℤ, (x * 10 ^ 3 < k - 1 / 2 ∨ x * 10 ^ 3 = k - 1 / 2 ∧ Odd k) ∧
    (k + 1 / 2 < y * 10 ^ 3 ∨ y * 10 ^ 3 = k + 1 / 2 ∧ Odd k)

lemma skips_iff {x y : ℚ} :
    Skips x y ↔ halfEven (x * 10 ^ 3) + 1 < halfEven (y * 10 ^ 3) := by
  unfold Skips
  simp only [← lt_halfEven_iff, ← halfEven_lt_iff]
  constructor
  · rintro ⟨k, hx, hy⟩
    omega
  · intro h
    exact ⟨halfEven (x * 10 ^ 3) + 1, by omega, h⟩

/-- A whole thousandth is passed over between the two. -/
def Apart (x y : ℚ) : Prop := Skips x y ∨ Skips y x

lemma abs_roundTo_sub_le_iff {x y : ℚ} :
    |roundTo 3 y - roundTo 3 x| ≤ 1 / 1000 ↔ ¬ Apart x y := by
  have hdiff : roundTo 3 y - roundTo 3 x =
      ((halfEven (y * 10 ^ 3) - halfEven (x * 10 ^ 3) : ℤ) : ℚ) / 1000 := by
    unfold roundTo
    push_cast
    ring
  have hunits : |roundTo 3 y - roundTo 3 x| ≤ 1 / 1000 ↔
      |halfEven (y * 10 ^ 3) - halfEven (x * 10 ^ 3)| ≤ 1 := by
    rw [hdiff, abs_div, abs_of_pos (by norm_num : (0 : ℚ) < 1000),
      div_le_div_iff_of_pos_right (by norm_num)]
    exact_mod_cast Iff.rfl
  rw [hunits, Apart, skips_iff, skips_iff, abs_le]
  omega

/-- Values less than a thousandth apart are rounded to the same or to neighbours. -/
lemma not_apart_of_close {x y : ℚ} (h : |y - x| < 1 / 1000) : ¬ Apart x y := by
  obtain ⟨hlow, hhigh⟩ := abs_lt.mp h
  have hxy := halfEven_le_add_one (x := x * 10 ^ 3) (y := y * 10 ^ 3) (by linarith)
  have hyx := halfEven_le_add_one (x := y * 10 ^ 3) (y := x * 10 ^ 3) (by linarith)
  rw [Apart, skips_iff, skips_iff]
  omega

section Agreement

variable {r : LiveRun} {m : ℕ}

lemma LiveRun.length_writtenOffsets (r : LiveRun) :
    r.writtenOffsets.length = r.observedAt.size := List.length_map ..

lemma length_offsetsOf (observedAt : Dict ℚ ℚ) : (offsetsOf observedAt).length = observedAt.size :=
  List.length_map ..

lemma LiveRun.Uniform.size_pos (h : r.Uniform m) : 0 < r.observedAt.size :=
  List.length_pos_iff.mpr h.observed

lemma generatorStartOffsetS_clockOffsets (h : r.observedAt.entries ≠ []) :
    (clockOffsets r.observedAt).generatorStartOffsetS =
      some (roundTo 3 (upperMiddle (sorted (offsetsOf r.observedAt)))) := by
  rw [clockOffsets, if_neg h]
  rfl

/-- The rows are aligned with the median of the written offsets. -/
lemma LiveRun.Uniform.align_eq (h : r.Uniform m) {run : Run} (hrun : run.metrics = r.metrics) :
    ∃ alignment, align run = .ok alignment ∧
      alignment.offsetS = some (roundTo 3 (orZero (medianDouble r.writtenOffsets))) := by
  have hne : rowOffsets r.metrics ≠ [] := by
    intro hnil
    have hlen := h.rowOffsets_perm.length_eq
    rw [hnil, length_flatMap_replicate, r.length_writtenOffsets] at hlen
    exact absurd hlen (Nat.mul_pos h.size_pos h.positive).ne
  have hrecords : recordsWallClock run = true := by
    obtain ⟨x, hx⟩ := List.exists_mem_of_ne_nil _ hne
    obtain ⟨row, hrow, hwall⟩ := List.mem_filterMap.mp hx
    obtain ⟨wall, hsome, -⟩ := Option.map_eq_some_iff.mp hwall
    rw [recordsWallClock, hrun]
    exact List.any_eq_true.mpr ⟨row, hrow, by rw [hsome]; rfl⟩
  unfold align
  rw [if_pos hrecords]
  refine ⟨_, rfl, ?_⟩
  rw [← h.median_rowOffsets, ← hrun]
  rfl

lemma LiveRun.Uniform.agree_iff_rounded (h : r.Uniform m) {run : Run}
    (hrun : run.metrics = r.metrics) :
    Agree r run ↔ |roundTo 3 (upperMiddle (sorted (offsetsOf r.observedAt))) -
      roundTo 3 (orZero (medianDouble r.writtenOffsets))| ≤ 1 / 1000 := by
  obtain ⟨alignment, halign, hoffset⟩ := h.align_eq hrun
  have hstart := generatorStartOffsetS_clockOffsets h.observed
  constructor
  · rintro ⟨start, alignment', offset, hstart', halign', hoffset', hclose⟩
    cases halign.symm.trans halign'
    cases hoffset.symm.trans hoffset'
    cases hstart.symm.trans hstart'
    exact hclose
  · exact fun hclose => ⟨_, alignment, _, hstart, halign, hoffset, hclose⟩

/-! ### Times of moderate size -/

/-- Both clocks are read below a bound. -/
def LiveRun.InRange (r : LiveRun) : Prop :=
  ∀ e ∈ r.observedAt.entries, |e.1| ≤ 2 ^ 36 ∧ |e.2| ≤ 2 ^ 36

/-- Writing the harness clock moves every order statistic by little. -/
lemma LiveRun.sorted_written_close (r : LiveRun) (hrange : r.InRange) {i : ℕ}
    (hi : i < r.observedAt.size) :
    |orZero (sorted r.writtenOffsets)[i]? - orZero (sorted (offsetsOf r.observedAt))[i]?| ≤
      7 / 10 ^ 4 := by
  have hw : i < (sorted r.writtenOffsets).length := by rwa [length_sortOn, r.length_writtenOffsets]
  have hl : i < (sorted (offsetsOf r.observedAt)).length := by rwa [length_sortOn, length_offsetsOf]
  have hup : (sorted r.writtenOffsets)[i] ≤
      (sorted (offsetsOf r.observedAt))[i] + 7 / 10 ^ 4 := by
    refine getElem_sorted_map_le (fun e he => ?_) hw hl
    have := (abs_le.mp (abs_double_roundDouble_sub_le (hrange e he).1 (hrange e he).2)).2
    linarith
  have hdown : (sorted (offsetsOf r.observedAt))[i] ≤
      (sorted r.writtenOffsets)[i] + 7 / 10 ^ 4 := by
    refine getElem_sorted_map_le (fun e he => ?_) hl hw
    have := (abs_le.mp (abs_double_roundDouble_sub_le (hrange e he).1 (hrange e he).2)).1
    linarith
  rw [List.getElem?_eq_getElem hw, List.getElem?_eq_getElem hl, abs_le]
  show _ ≤ (sorted r.writtenOffsets)[i] - (sorted (offsetsOf r.observedAt))[i] ∧
    (sorted r.writtenOffsets)[i] - (sorted (offsetsOf r.observedAt))[i] ≤ _
  constructor <;> linarith

/-- **An odd number of intervals** is summarised alike. -/
theorem LiveRun.Uniform.agree_of_odd (h : r.Uniform m) {run : Run} (hrun : run.metrics = r.metrics)
    (hrange : r.InRange) (hodd : Odd r.observedAt.size) : Agree r run := by
  rw [h.agree_iff_rounded hrun, median_of_odd (r.length_writtenOffsets ▸ hodd),
    abs_roundTo_sub_le_iff]
  refine not_apart_of_close ?_
  have hpos := h.size_pos
  have hclose := r.sorted_written_close hrange (i := r.observedAt.size / 2) (by omega)
  unfold upperMiddle
  rw [length_sortOn, length_sortOn, r.length_writtenOffsets, length_offsetsOf, abs_sub_comm]
  exact hclose.trans_lt (by norm_num)

/-- A line of an operation at the end of its second. -/
def line (n : ℕ) (op : String) : Workload.Sample :=
  ⟨.periodic, .finite n, op, 0, Finmap.singleton "tps" (.finite 100)⟩

def tick (n : ℕ) : Ticks.Tick :=
  ⟨.finite n, .finite 200, 0, [("read", line n "read"), ("write", line n "write")]⟩

/-- Two intervals of two operations, observed 5 s and 5.01 s after their time on the generator's
clock. -/
def twoIntervals : LiveRun where
  tZero := 0
  concurrency := 8
  arrivals := [(6, line 1 "read"), (6, line 1 "write"), (701 / 100, line 2 "read"),
    (701 / 100, line 2 "write")]
  timed := [(6, tick 1), (701 / 100, tick 2)]
  grouped := by decide +kernel
  finite := by
    intro s hs
    have hmem : s ∈ [line 1 "read", line 1 "write", line 2 "read", line 2 "write"] :=
      (List.mem_filter.mp hs).1
    simp only [List.mem_cons, List.not_mem_nil, or_false] at hmem
    rcases hmem with rfl | rfl | rfl | rfl <;> exact ⟨_, rfl⟩

def twoIntervalsRun : Run := { metrics := twoIntervals.metrics }

lemma twoIntervals_uniform : twoIntervals.Uniform 2 where
  observed := by decide +kernel
  positive := by decide
  rows := by decide +kernel

/-- The offsets are of moderate size. -/
lemma LiveRun.InRange.size_written (hrange : r.InRange) :
    ∀ x ∈ r.writtenOffsets, |x| ≤ 2 ^ 38 := by
  intro x hx
  obtain ⟨e, he, rfl⟩ := List.mem_map.mp hx
  obtain ⟨hx, hy⟩ := hrange e he
  have hclose := abs_le.mp (abs_double_roundDouble_sub_le hx hy)
  have hx' := abs_le.mp hx
  have hy' := abs_le.mp hy
  have hsub : |e.2 - e.1| ≤ 2 ^ 40 := by
    rw [abs_le]
    constructor <;> norm_num at hx' hy' ⊢ <;> linarith
  have hdouble := abs_le.mp (abs_double_sub_le_of_abs_le hsub)
  rw [abs_le]
  norm_num at hx' hy' hclose hdouble ⊢
  constructor <;> linarith

/-- The mean of the two middle offsets, as it is written, is near that of the observed ones. -/
lemma LiveRun.Uniform.meanMiddle_close (h : r.Uniform m) (hrange : r.InRange) :
    |meanMiddle (sorted r.writtenOffsets) - (lowerMiddle (sorted (offsetsOf r.observedAt)) +
      upperMiddle (sorted (offsetsOf r.observedAt))) / 2| ≤ 9 / 10 ^ 4 := by
  have hpos := h.size_pos
  have hlen : (sorted r.writtenOffsets).length = r.observedAt.size := by
    rw [length_sortOn, r.length_writtenOffsets]
  have hclose : ∀ i < r.observedAt.size, _ := fun i hi => abs_le.mp (r.sorted_written_close hrange hi)
  have hsize : ∀ i < r.observedAt.size, |orZero (sorted r.writtenOffsets)[i]?| ≤ 2 ^ 38 := by
    intro i hi
    rw [List.getElem?_eq_getElem (hlen ▸ hi)]
    exact hrange.size_written _ ((mem_sortOn id).mp (List.getElem_mem _))
  have hlow := hclose (r.observedAt.size / 2 - 1) (by omega)
  have hhigh := hclose (r.observedAt.size / 2) (by omega)
  have hlowSize := abs_le.mp (hsize (r.observedAt.size / 2 - 1) (by omega))
  have hhighSize := abs_le.mp (hsize (r.observedAt.size / 2) (by omega))
  unfold meanMiddle lowerMiddle upperMiddle
  rw [hlen, length_sortOn, length_offsetsOf]
  set x := orZero (sorted r.writtenOffsets)[r.observedAt.size / 2 - 1]?
  set y := orZero (sorted r.writtenOffsets)[r.observedAt.size / 2]?
  have hsmall : smallest ≤ 1 / 2 ^ 15 := by decide +kernel
  norm_num at hlow hhigh hlowSize hhighSize
  have hsum : |double (x + y) - (x + y)| ≤ 1 / 2 ^ 13 := by
    refine abs_double_sub_le_of_le (hsmall.trans (by norm_num)) ?_
    rw [abs_le]
    norm_num
    constructor <;> linarith
  have hsum' := abs_le.mp hsum
  norm_num at hsum'
  have hhalf : |double (double (x + y) / 2) - double (x + y) / 2| ≤ 1 / 2 ^ 13 := by
    refine abs_double_sub_le_of_le (hsmall.trans (by norm_num)) ?_
    rw [abs_le]
    norm_num
    constructor <;> linarith
  have hhalf' := abs_le.mp hhalf
  rw [abs_le]
  norm_num at hhalf' ⊢
  constructor <;> linarith

lemma lowerMiddle_le (l : List ℚ) : lowerMiddle (sorted l) ≤ upperMiddle (sorted l) := by
  rcases List.eq_nil_or_concat l with rfl | ⟨l', a, rfl⟩
  · exact le_refl _
  · set l := l'.concat a with hl
    have hlen : 0 < (sorted l).length := by
      rw [length_sortOn, hl]
      simp
    have hhigh : (sorted l).length / 2 < (sorted l).length := by omega
    have hlow : (sorted l).length / 2 - 1 < (sorted l).length := by omega
    unfold lowerMiddle upperMiddle
    rw [List.getElem?_eq_getElem hlow, List.getElem?_eq_getElem hhigh]
    exact (ordered_sortOn id l).rel_get_of_le (a := ⟨_, hlow⟩) (b := ⟨_, hhigh⟩) (Nat.sub_le _ _)

lemma LiveRun.Uniform.agree_iff_of_even (h : r.Uniform m) {run : Run}
    (hrun : run.metrics = r.metrics) (heven : ¬ Odd r.observedAt.size) :
    Agree r run ↔ ¬ Apart (meanMiddle (sorted r.writtenOffsets))
      (upperMiddle (sorted (offsetsOf r.observedAt))) := by
  have hne : r.writtenOffsets ≠ [] :=
    List.length_pos_iff.mp (r.length_writtenOffsets ▸ h.size_pos)
  rw [h.agree_iff_rounded hrun, median_of_even hne (by rwa [r.length_writtenOffsets]),
    abs_roundTo_sub_le_iff]

/-- Two middle offsets less than two ten-thousandths apart are summarised alike. -/
theorem agree_of_middle_close (h : r.Uniform m) {run : Run} (hrun : run.metrics = r.metrics)
    (hrange : r.InRange)
    (hgap : upperMiddle (sorted (offsetsOf r.observedAt)) <
      lowerMiddle (sorted (offsetsOf r.observedAt)) + 2 / 10 ^ 4) : Agree r run := by
  by_cases hodd : Odd r.observedAt.size
  · exact h.agree_of_odd hrun hrange hodd
  · rw [h.agree_iff_of_even hrun hodd]
    refine not_apart_of_close ?_
    have hmean := abs_le.mp (h.meanMiddle_close hrange)
    have hle := lowerMiddle_le (offsetsOf r.observedAt)
    rw [abs_lt]
    constructor <;> linarith

/-- Two middle offsets of an even number that are more than six thousandths apart are not. -/
theorem not_agree_of_middle_apart (h : r.Uniform m) {run : Run} (hrun : run.metrics = r.metrics)
    (hrange : r.InRange) (heven : ¬ Odd r.observedAt.size)
    (hgap : lowerMiddle (sorted (offsetsOf r.observedAt)) + 6 / 1000 <
      upperMiddle (sorted (offsetsOf r.observedAt))) : ¬ Agree r run := by
  rw [h.agree_iff_of_even hrun heven, not_not, Apart, skips_iff]
  have hmean := (abs_le.mp (h.meanMiddle_close hrange)).2
  exact Or.inl (halfEven_add_one_lt (by linarith))

end Agreement

end CrdbLab.ClockOffsets
