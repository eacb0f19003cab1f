import CrdbLab.Validation
import Mathlib.Algebra.BigOperators.Ring.List
import Mathlib.Algebra.Order.BigOperators.Group.List
import Mathlib.Algebra.Order.Field.Basic

/-!
Little's law under a change of scale.

Counting more throughput divides the mean latency that a tier implies and leaves its weighted
median; binding a slower column raises the median and leaves the mean. Either way a tier that
the check reports stays reported.
-/

namespace CrdbLab.LittlesLaw

open CrdbLab.Lib.Groups CrdbLab.Lib.Recent CrdbLab.MatchedThroughput CrdbLab.Validation

/-! ### A change of scale -/

def Row.scale (j k : ℚ) (r : Row) : Row :=
  { r with
    tps := r.tps.map (j * ·)
    p50Ms := r.p50Ms.map (k * ·) }

lemma latency_scale (j k : ℚ) (r : Row) (c : Quantile) :
    (Row.scale j k r).latency c ≠ none ↔ r.latency c ≠ none := by
  cases c <;> simp [Row.scale, Row.latency]

/-- Every throughput times `j` and every median times `k`. -/
def scale (j k : ℚ) (t : Table) : Table where
  columns := t.columns
  rows := t.rows.map (Row.scale j k)
  recorded := by
    intro r hr c hc
    obtain ⟨a, ha, rfl⟩ := List.mem_map.mp hr
    exact t.recorded a ha c ((latency_scale j k a c).mp hc)

def timesTps (k : ℚ) (t : Table) : Table := scale k 1 t

def timesP50 (k : ℚ) (t : Table) : Table := scale 1 k t

/-- The load of an interval, its throughput times `j` and its medians times `k`. -/
def TickLoad.scale (j k : ℚ) (κ : TickLoad) : TickLoad :=
  { κ with
    totalTps := j * κ.totalTps
    p50Weight := j * k * κ.p50Weight }

variable {j k : ℚ}

lemma sum_map_mul (x : ℚ) (l : List ℚ) : (l.map (x * ·)).sum = x * l.sum := by
  simpa using List.sum_map_mul_left l id x

lemma mean_map_mul (x : ℚ) (l : List ℚ) : mean (l.map (x * ·)) = x * mean l := by
  rw [mean, mean, sum_map_mul, List.length_map, mul_div_assoc]

lemma working_scale (hj : 0 < j) (rows : List Row) :
    working (rows.map (Row.scale j k)) = (working rows).map (Row.scale j k) := by
  rw [working, working, List.filter_map]
  refine congrArg (List.map _) (List.filter_congr fun r _ => ?_)
  cases h : r.tps <;> simp [Row.scale, h, hj]

lemma tickLoad_scale (concurrency : ℤ) (group : List Row) :
    tickLoad concurrency (group.map (Row.scale j k)) =
      TickLoad.scale j k (tickLoad concurrency group) := by
  have htps : (group.map (Row.scale j k)).filterMap Row.tps =
      (group.filterMap Row.tps).map (j * ·) := by
    rw [List.filterMap_map, List.map_filterMap]
    rfl
  have hweight : (group.map (Row.scale j k)).filterMap
        (fun r => do return (← r.tps) * (← r.p50Ms)) =
      (group.filterMap fun r => do return (← r.tps) * (← r.p50Ms)).map (j * k * ·) := by
    rw [List.filterMap_map, List.map_filterMap]
    refine List.filterMap_congr fun r _ => ?_
    cases hx : r.tps <;> cases hy : r.p50Ms <;> simp [Row.scale, hx, hy]
    ring
  simp only [tickLoad, TickLoad.scale, htps, hweight, sum_map_mul]

lemma perTick_scale (hj : 0 < j) (rows : List Row) :
    perTick (rows.map (Row.scale j k)) = (perTick rows).map (TickLoad.scale j k) := by
  have hgroups : groupBy (fun r : Row => some r.interval) ((working rows).map (Row.scale j k)) =
      (groupBy (fun r : Row => some r.interval) (working rows)).map
        fun p => (p.1, p.2.map (Row.scale j k)) :=
    groupBy_map (fun _ => rfl) _
  have hloads : ((groupBy (fun r : Row => some r.interval) (working rows)).map
        fun p => (p.1, p.2.map (Row.scale j k))).map
          (fun p => tickLoad (ofLex p.1).1 p.2) =
      ((groupBy (fun r : Row => some r.interval) (working rows)).map
        fun p => tickLoad (ofLex p.1).1 p.2).map (TickLoad.scale j k) := by
    rw [List.map_map, List.map_map]
    exact List.map_congr_left fun p _ => tickLoad_scale _ _
  rw [perTick, perTick, working_scale hj, hgroups, hloads, List.filter_map]
  refine congrArg (List.map _) (List.filter_congr fun κ _ => ?_)
  simp [TickLoad.scale, hj]

/-! ### The tiers reported -/

/-- A finding of the check is about the tier. -/
def Reports (t : Table) (tolerance : ℚ) (concurrency : ℤ) : Prop :=
  ∃ l, checkLittlesLaw t tolerance = .ok l ∧ ∃ f ∈ l, ∃ implied weighted total,
    f.detail = .tier concurrency implied weighted total

/-- The loads of a tier. -/
def tier (t : Table) (concurrency : ℤ) : List TickLoad :=
  rowsOf (fun κ : TickLoad => some κ.concurrency) (perTick t.rows) concurrency

/-- The column that the check reads is there, or nothing is read. -/
def Readable (t : Table) : Prop := working t.rows = [] ∨ .p50Ms ∈ t.columns

variable {t : Table} {tolerance : ℚ}

lemma tier_of_idle (h : working t.rows = []) (concurrency : ℤ) : tier t concurrency = [] := by
  rw [tier, perTick, h]
  rfl

lemma mem_tier {concurrency : ℤ} {κ : TickLoad} :
    κ ∈ tier t concurrency ↔ κ ∈ perTick t.rows ∧ κ.concurrency = concurrency := by
  rw [tier, mem_rowsOf, Option.some.injEq]

/-- The findings where the check reads the column. -/
lemma checkLittlesLaw_of_column (hworking : working t.rows ≠ []) (hcolumn : .p50Ms ∈ t.columns) :
    ∃ l, checkLittlesLaw t tolerance = .ok l ∧ ∀ f, f ∈ l ↔ ∃ concurrency,
      tier t concurrency ≠ [] ∧ overCounted tolerance (tier t concurrency) ∧
        littlesLawFinding concurrency (tier t concurrency) = f := by
  rw [checkLittlesLaw, if_neg hworking, if_pos hcolumn]
  refine ⟨_, rfl, fun f => ?_⟩
  simp only [List.mem_filterMap, mem_groupBy, Option.some.injEq, Option.ite_none_right_eq_some]
  constructor
  · rintro ⟨⟨c, ticks⟩, ⟨κ, hκ, hc, hticks⟩, hover, hf⟩
    obtain rfl : tier t c = ticks := hticks
    exact ⟨c, List.ne_nil_of_mem (mem_tier.mpr ⟨hκ, hc⟩), hover, hf⟩
  · rintro ⟨c, hne, hover, hf⟩
    obtain ⟨κ, hκ⟩ := List.exists_mem_of_ne_nil _ hne
    obtain ⟨hmem, hc⟩ := mem_tier.mp hκ
    exact ⟨(c, tier t c), ⟨κ, hmem, hc, rfl⟩, hover, hf⟩

lemma reports_iff {concurrency : ℤ} :
    Reports t tolerance concurrency ↔ Readable t ∧ tier t concurrency ≠ [] ∧
      overCounted tolerance (tier t concurrency) := by
  by_cases hworking : working t.rows = []
  · -- nothing is read and nothing reported
    have hok : checkLittlesLaw t tolerance = .ok [] := if_pos hworking
    rw [tier_of_idle hworking]
    constructor
    · rintro ⟨l, hl, f, hf, -⟩
      rw [hok] at hl
      cases hl
      cases hf
    · rintro ⟨-, hne, -⟩
      exact absurd rfl hne
  by_cases hcolumn : Quantile.p50Ms ∈ t.columns
  · obtain ⟨l, hl, hmem⟩ := @checkLittlesLaw_of_column t tolerance hworking hcolumn
    constructor
    · rintro ⟨l', hl', f, hf, implied, weighted, total, hdetail⟩
      rw [hl, Except.ok.injEq] at hl'
      obtain ⟨c, hne, hover, rfl⟩ := (hmem f).mp (hl' ▸ hf)
      obtain rfl : c = concurrency := by
        cases hdetail
        rfl
      exact ⟨Or.inr hcolumn, hne, hover⟩
    · rintro ⟨-, hne, hover⟩
      exact ⟨l, hl, _, (hmem _).mpr ⟨concurrency, hne, hover, rfl⟩, _, _, _, rfl⟩
  · have herror : checkLittlesLaw t tolerance = .error .p50Ms := by
      rw [checkLittlesLaw, if_neg hworking, if_neg hcolumn]
    constructor
    · rintro ⟨l, hl, -⟩
      rw [herror] at hl
      cases hl
    · rintro ⟨h | h, -⟩
      · exact absurd h hworking
      · exact absurd h hcolumn

/-- The check passes when it can be evaluated and reports no tier. -/
lemma passes_iff : checkLittlesLaw t tolerance = .ok [] ↔
    Readable t ∧ ∀ concurrency, ¬ Reports t tolerance concurrency := by
  constructor
  · intro hok
    refine ⟨?_, ?_⟩
    · by_contra hread
      obtain ⟨hworking, hcolumn⟩ := not_or.mp hread
      rw [checkLittlesLaw, if_neg hworking, if_neg hcolumn] at hok
      cases hok
    · rintro concurrency ⟨l, hl, f, hf, -⟩
      rw [hok, Except.ok.injEq] at hl
      rw [← hl] at hf
      cases hf
  · rintro ⟨hread, hnone⟩
    by_cases hworking : working t.rows = []
    · exact if_pos hworking
    · have hcolumn := hread.resolve_left hworking
      obtain ⟨l, hl, hmem⟩ := @checkLittlesLaw_of_column t tolerance hworking hcolumn
      have hnil : l = [] := by
        rw [List.eq_nil_iff_forall_not_mem]
        intro f hf
        obtain ⟨c, hne, hover, rfl⟩ := (hmem f).mp hf
        exact hnone c (reports_iff.mpr ⟨hread, hne, hover⟩)
      rw [hl, hnil]

/-! ### The direction of a change -/

lemma tier_scale (hj : 0 < j) (concurrency : ℤ) :
    tier (scale j k t) concurrency = (tier t concurrency).map (TickLoad.scale j k) := by
  have hperTick : perTick (scale j k t).rows = (perTick t.rows).map (TickLoad.scale j k) :=
    perTick_scale hj t.rows
  rw [tier, tier, hperTick, rowsOf, rowsOf, List.filter_map]
  rfl

lemma readable_scale (hj : 0 < j) : Readable (scale j k t) ↔ Readable t := by
  have hworking : working (scale j k t).rows = (working t.rows).map (Row.scale j k) :=
    working_scale hj t.rows
  rw [Readable, Readable, hworking, List.map_eq_nil_iff]
  rfl

lemma impliedMeanMs_scale (κ : TickLoad) :
    (TickLoad.scale j k κ).impliedMeanMs = j⁻¹ * κ.impliedMeanMs := by
  simp only [TickLoad.impliedMeanMs, TickLoad.scale]
  rw [div_mul_eq_div_div_swap, div_eq_inv_mul _ j]
  ring

lemma weightedP50Ms_scale (hj : j ≠ 0) (κ : TickLoad) :
    (TickLoad.scale j k κ).weightedP50Ms = k * κ.weightedP50Ms := by
  simp only [TickLoad.weightedP50Ms, TickLoad.scale]
  rw [mul_assoc, mul_div_mul_left _ _ hj, mul_div_assoc]

lemma overCounted_scale (hj : j ≠ 0) (ticks : List TickLoad) :
    overCounted tolerance (ticks.map (TickLoad.scale j k)) ↔
      j⁻¹ * mean (ticks.map TickLoad.impliedMeanMs) <
        k * mean (ticks.map TickLoad.weightedP50Ms) * tolerance := by
  have himplied : (ticks.map (TickLoad.scale j k)).map TickLoad.impliedMeanMs =
      (ticks.map TickLoad.impliedMeanMs).map (j⁻¹ * ·) := by
    rw [List.map_map, List.map_map]
    exact List.map_congr_left fun κ _ => impliedMeanMs_scale κ
  have hweighted : (ticks.map (TickLoad.scale j k)).map TickLoad.weightedP50Ms =
      (ticks.map TickLoad.weightedP50Ms).map (k * ·) := by
    rw [List.map_map, List.map_map]
    exact List.map_congr_left fun κ _ => weightedP50Ms_scale hj κ
  rw [overCounted, himplied, hweighted, mean_map_mul, mean_map_mul]

lemma mean_nonneg {l : List ℚ} (h : ∀ x ∈ l, 0 ≤ x) : 0 ≤ mean l :=
  div_nonneg (List.sum_nonneg h) (Nat.cast_nonneg _)

/-- Latencies that are not negative have no negative weighted median. -/
lemma weightedP50Ms_nonneg (hlatency : ∀ r ∈ t.rows, ∀ x ∈ r.p50Ms, 0 ≤ x) {κ : TickLoad}
    (hκ : κ ∈ perTick t.rows) : 0 ≤ κ.weightedP50Ms := by
  obtain ⟨hmem, htotal⟩ := List.mem_filter.mp hκ
  obtain ⟨p, hp, rfl⟩ := List.mem_map.mp hmem
  obtain ⟨-, -, -, hrows⟩ := mem_groupBy.mp hp
  refine div_nonneg (List.sum_nonneg fun x hx => ?_) (of_decide_eq_true htotal).le
  obtain ⟨r, hr, hx⟩ := List.mem_filterMap.mp hx
  have hworking : r ∈ working t.rows := (mem_rowsOf.mp (hrows ▸ hr)).1
  obtain ⟨hrow, htps⟩ := List.mem_filter.mp hworking
  cases htps' : r.tps with
  | none => simp [htps'] at hx
  | some y =>
    cases hp50 : r.p50Ms with
    | none => simp [htps', hp50] at hx
    | some z =>
      have hy : 0 < y := by simpa [htps'] using htps
      have hz : 0 ≤ z := hlatency r hrow z (by rw [hp50]; rfl)
      have hprod : y * z = x := by simpa [htps', hp50] using hx
      exact hprod ▸ mul_nonneg hy.le hz

/-- **The larger the factors, the more is reported.** -/
lemma reports_scale_mono {j' k' : ℚ} (htolerance : 0 ≤ tolerance)
    (hlatency : ∀ r ∈ t.rows, ∀ x ∈ r.p50Ms, 0 ≤ x) (hj : 0 < j) (hjj : j ≤ j') (hk : 0 ≤ k)
    (hkk : k ≤ k') {concurrency : ℤ} (h : Reports (scale j k t) tolerance concurrency) :
    Reports (scale j' k' t) tolerance concurrency := by
  have hj' : 0 < j' := hj.trans_le hjj
  obtain ⟨hread, hne, hover⟩ := reports_iff.mp h
  rw [tier_scale hj] at hne hover
  refine reports_iff.mpr ⟨?_, ?_, ?_⟩
  · exact (readable_scale hj').mpr ((readable_scale hj).mp hread)
  · rw [tier_scale hj', ne_eq, List.map_eq_nil_iff]
    rwa [ne_eq, List.map_eq_nil_iff] at hne
  · rw [overCounted_scale hj.ne'] at hover
    rw [tier_scale hj', overCounted_scale hj'.ne']
    set implied := mean ((tier t concurrency).map TickLoad.impliedMeanMs)
    set weighted := mean ((tier t concurrency).map TickLoad.weightedP50Ms)
    have hweighted : 0 ≤ weighted := by
      refine mean_nonneg fun x hx => ?_
      obtain ⟨κ, hκ, rfl⟩ := List.mem_map.mp hx
      exact weightedP50Ms_nonneg hlatency (mem_tier.mp hκ).1
    have hright : k * weighted * tolerance ≤ k' * weighted * tolerance :=
      mul_le_mul_of_nonneg_right (mul_le_mul_of_nonneg_right hkk hweighted) htolerance
    rcases le_or_gt 0 implied with hpos | hneg
    · have hleft : j'⁻¹ * implied ≤ j⁻¹ * implied :=
        mul_le_mul_of_nonneg_right (inv_anti₀ hj hjj) hpos
      linarith
    · have hleft : j'⁻¹ * implied < 0 := mul_neg_of_pos_of_neg (inv_pos.mpr hj') hneg
      have hzero : 0 ≤ k * weighted * tolerance :=
        mul_nonneg (mul_nonneg hk hweighted) htolerance
      linarith

lemma scale_one (t : Table) : scale 1 1 t = t := by
  obtain ⟨columns, rows, recorded⟩ := t
  have hid : (fun x : ℚ => 1 * x) = id := funext one_mul
  have hrow : ∀ r : Row, Row.scale 1 1 r = r := by
    intro r
    rw [Row.scale, hid, Option.map_id]
    rfl
  have hrows : rows.map (Row.scale 1 1) = rows := by
    rw [List.map_congr_left fun r _ => hrow r, List.map_id']
  simp only [scale, hrows]

/-- **Both faults only add to what is reported.** A tier that the check reports is reported
when all throughput, or all medians, are multiplied by a factor from one on; so a table that
passes does when its throughput is under-counted. -/
theorem reports_monotone {t : Table} {tolerance k : ℚ} (htolerance : 0 ≤ tolerance)
    (hlatency : ∀ r ∈ t.rows, ∀ x ∈ r.p50Ms, 0 ≤ x) (hk : 1 ≤ k) :
    (∀ concurrency, Reports t tolerance concurrency →
        Reports (timesTps k t) tolerance concurrency ∧
          Reports (timesP50 k t) tolerance concurrency) ∧
      (checkLittlesLaw t tolerance = .ok [] →
        checkLittlesLaw (timesTps k⁻¹ t) tolerance = .ok []) := by
  have hk0 : 0 < k := zero_lt_one.trans_le hk
  have hmono : ∀ {j j' i i' : ℚ}, 0 < j → j ≤ j' → 0 ≤ i → i ≤ i' → ∀ {c : ℤ},
      Reports (scale j i t) tolerance c → Reports (scale j' i' t) tolerance c :=
    fun hj hjj hi hii _ h => reports_scale_mono htolerance hlatency hj hjj hi hii h
  refine ⟨fun concurrency h => ?_, fun hpass => ?_⟩
  · rw [← scale_one t] at h
    exact ⟨hmono one_pos hk zero_le_one (le_refl 1) h,
      hmono one_pos (le_refl 1) zero_le_one hk h⟩
  · obtain ⟨hread, hnone⟩ := passes_iff.mp hpass
    refine passes_iff.mpr ⟨(readable_scale (inv_pos.mpr hk0)).mpr hread, fun c h => ?_⟩
    have hmore := hmono (inv_pos.mpr hk0) (inv_le_one_of_one_le₀ hk) zero_le_one (le_refl 1) h
    rw [scale_one] at hmore
    exact hnone c hmore

/-- Local reads and cross-region updates of ten workers, each with the 95th percentile in the
column of the median. -/
def shifted : Table where
  columns := quantiles
  rows :=
    [{ concurrency := 10, repetition := 1, elapsedS := 1, op := some "read", tps := some 526,
       p50Ms := some (39 / 10), p95Ms := some (39 / 10) },
      { concurrency := 10, repetition := 1, elapsedS := 1, op := some "update", tps := some 134,
        p50Ms := some (1049 / 10), p95Ms := some (1049 / 10) }]
  recorded := by
    rintro r - c -
    cases c <;> decide

theorem shifted_reported : Reports (timesTps 20 shifted) (9 / 10) 10 ∧
    Reports (timesP50 20 shifted) (9 / 10) 10 := by
  have htier : tier shifted 10 ≠ [] := by decide +kernel
  have hover : overCounted (9 / 10) (tier shifted 10) := by decide +kernel
  have hlatency : ∀ r ∈ shifted.rows, ∀ x ∈ r.p50Ms, 0 ≤ x := by decide +kernel
  have hreports : Reports shifted (9 / 10) 10 :=
    reports_iff.mpr ⟨Or.inr (by decide), htier, hover⟩
  exact (reports_monotone (by norm_num) hlatency (by norm_num)).1 10 hreports

end CrdbLab.LittlesLaw
