import CrdbLab.ChaosRun

/-!
Whether the recovery time recomputed from the rows agrees with the one computed live.

Both look for the first tick from which throughput holds, on two timelines: the recorded one is
the live one with its offsets rounded. Rounding can move a tick across the fault or across the
end of a window, and so add or remove such a tick.
-/

namespace CrdbLab.LivePerformance

open CrdbLab.Lib.Rounding CrdbLab.Lib.Double CrdbLab.Lib.KeySort CrdbLab.Lib.Extended
open CrdbLab.Optional
open CrdbLab.Ticks CrdbLab.ThroughputAgreement CrdbLab.Loader CrdbLab.Clocks
open CrdbLab.SteadyState CrdbLab.FindRecovery CrdbLab.Performance CrdbLab.ChaosRun

/-- Less than a second later, as the difference is rounded, or earlier. -/
def Within (later earlier : ℚ) : Prop := double (later - earlier) < 1

/-- Both are missing, or they are less than a second apart. -/
def Agree (a b : Option ℚ) : Prop :=
  a = none ∧ b = none ∨ ∃ x y, a = some x ∧ b = some y ∧ |double (x - y)| < 1

section Statements

-- the standard deviation and the sum of floats
variable (std sum : List ℚ → ℚ) (m : Measured)

/-- The recovery time that is recomputed from the loaded run. -/
def Rederived (rto : Option ℚ) : Prop :=
  ∃ alignment p, align (m.recordedRun sum) = .ok alignment ∧
    performance std sum (m.recordedRun sum) alignment = .ok p ∧ p.rtoS = rto

/-- The recomputed recovery time agrees with the one computed live. -/
def AgreesWithRecorded : Prop :=
  ∃ rto, Rederived std sum m rto ∧ Agree (m.performanceRtoS sum) rto

end Statements

/-- Throughput holds from a tick at the offset on, against the mean of the ticks before the
fault. -/
def Start (sum : List ℚ → ℚ) (samples : List Sample) (threshold holdS faultAtS startS : ℚ) : Prop :=
  0 < baselineTps sum samples faultAtS ∧
    Sustained samples faultAtS (double (baselineTps sum samples faultAtS * threshold)) holdS startS

/-- What makes a tick of the samples a start, `pre` and `rest` being those before and after it. -/
def SustainedFrom (samples : List Sample) (faultAtS floor holdS : ℚ) (pre : List Sample)
    (start : Sample) (rest : List Sample) : Prop :=
  faultAtS ≤ start.offsetS ∧
    (∀ s ∈ pre ++ [start], faultAtS ≤ s.offsetS → Kept holdS s) ∧
    (∀ last ∈ samples.getLast?, ¬ Short holdS last.offsetS start.offsetS) ∧
    ∀ s ∈ start :: rest, start.offsetS ≤ s.offsetS →
      s.offsetS < windowEnd holdS start.offsetS → floor ≤ s.tps

section Condition

variable (sum : List ℚ → ℚ) (m : Measured) (faultAtS : ℚ)

/-- A start on the live timeline. -/
def LiveStart : ℚ → Prop := Start sum m.series m.recoveryThreshold m.recoveryHoldS faultAtS

/-- A start on the recorded timeline. -/
def RecordedStart : ℚ → Prop :=
  Start sum m.recordedSeries m.recoveryThreshold m.recoveryHoldS faultAtS

/-- Rounding leaves what the search compares at a tick as it is: it moves no tick across the
fault or to the end of its own window, none across the end of the window of this one, and the last
one not across the hold. -/
structure Unmoved (s : Sample) : Prop where
  fault : ∀ t ∈ m.series, (roundDouble 3 t.offsetS < faultAtS ↔ t.offsetS < faultAtS)
  kept : ∀ t ∈ m.series, (Kept m.recoveryHoldS (recordedSample t) ↔ Kept m.recoveryHoldS t)
  window : ∀ t ∈ m.series,
    (roundDouble 3 t.offsetS < windowEnd m.recoveryHoldS (roundDouble 3 s.offsetS) ↔
      t.offsetS < windowEnd m.recoveryHoldS s.offsetS)
  long : ∀ last ∈ m.series.getLast?,
    (Short m.recoveryHoldS (roundDouble 3 last.offsetS) (roundDouble 3 s.offsetS) ↔
      Short m.recoveryHoldS last.offsetS s.offsetS)

/-- A start at which rounding moves a comparison has a start of the other timeline less than a
second later, or before it. -/
structure HarmlessRounding : Prop where
  live : ∀ s ∈ m.series, ¬ Unmoved m faultAtS s → LiveStart sum m faultAtS s.offsetS →
    ∃ r, RecordedStart sum m faultAtS r ∧ Within (rtoOf faultAtS r) (rtoOf faultAtS s.offsetS)
  recorded : ∀ s ∈ m.series, ¬ Unmoved m faultAtS s →
    RecordedStart sum m faultAtS (roundDouble 3 s.offsetS) →
      ∃ r, LiveStart sum m faultAtS r ∧
        Within (rtoOf faultAtS r) (rtoOf faultAtS (roundDouble 3 s.offsetS))

end Condition

/-! ### The first start -/

/-- The option is the least offset with the property, if there is one. -/
def IsFirst (P : ℚ → Prop) (a : Option ℚ) : Prop :=
  (∀ r, a = some r ↔ IsLeast {r | P r} r) ∧ (a = none ↔ ∀ r, ¬ P r)

/-- **The recovery is the first start.** -/
theorem recovered_isFirst (sum : List ℚ → ℚ) {samples : List Sample}
    (hord : Ordered Sample.offsetS samples) (threshold holdS faultAtS : ℚ) :
    IsFirst (Start sum samples threshold holdS faultAtS)
      (recovered sum samples threshold holdS faultAtS) := by
  by_cases hbase : 0 < baselineTps sum samples faultAtS
  · have hstart : ∀ r, Start sum samples threshold holdS faultAtS r ↔
        Sustained samples faultAtS (double (baselineTps sum samples faultAtS * threshold)) holdS r :=
      fun r => ⟨fun h => h.2, fun h => ⟨hbase, h⟩⟩
    rw [recovered, if_pos hbase]
    refine ⟨fun r => ?_, ?_⟩
    · simp only [hstart]
      exact findRecovery_eq_some_iff hord
    · simp only [hstart]
      exact findRecovery_eq_none_iff hord
  · have hno : ∀ r, ¬ Start sum samples threshold holdS faultAtS r := fun r h => hbase h.1
    rw [recovered, if_neg hbase]
    exact ⟨fun r => ⟨fun h => (nomatch h), fun h => absurd h.1 (hno r)⟩,
      fun _ => hno, fun _ => rfl⟩

section First

variable {P Q : ℚ → Prop} {a b : Option ℚ} {rto : ℚ → ℚ}

lemma IsFirst.of_mem (h : IsFirst P a) {x : ℚ} (hx : a = some x) : P x := ((h.1 x).mp hx).1

lemma IsFirst.exists_le (h : IsFirst P a) {r : ℚ} (hr : P r) : ∃ x, a = some x ∧ x ≤ r := by
  cases ha : a with
  | none => exact absurd hr (h.2.mp ha r)
  | some x => exact ⟨x, rfl, ((h.1 x).mp ha).2 hr⟩

lemma Within.mono {x x' y y' : ℚ} (hy : y' ≤ y) (hx : x ≤ x') (h : Within y x) : Within y' x' :=
  (double_mono (sub_le_sub hy hx)).trans_lt h

/-- The first offset with one property is matched by the first one with the other exactly when
every offset with the one is matched by some offset with the other. -/
lemma matched_first_iff (ha : IsFirst P a) (hb : IsFirst Q b) (hmono : Monotone rto) :
    (∀ x, a = some x → ∃ y, b = some y ∧ Within (rto y) (rto x)) ↔
      ∀ r, P r → ∃ q, Q q ∧ Within (rto q) (rto r) := by
  constructor
  · intro h r hr
    obtain ⟨x, hx, hxr⟩ := ha.exists_le hr
    obtain ⟨y, hy, hyx⟩ := h x hx
    exact ⟨y, hb.of_mem hy, hyx.mono le_rfl (hmono hxr)⟩
  · intro h x hx
    obtain ⟨q, hq, hqx⟩ := h x (ha.of_mem hx)
    obtain ⟨y, hy, hyq⟩ := hb.exists_le hq
    exact ⟨y, hy, hqx.mono (hmono hyq) le_rfl⟩

lemma abs_double_sub_lt_iff {x y : ℚ} : |double (x - y)| < 1 ↔ Within y x ∧ Within x y := by
  have hneg : double (y - x) = -double (x - y) := by
    rw [← double_neg, neg_sub]
  rw [Within, Within, hneg, abs_lt]
  constructor
  · rintro ⟨h, h'⟩
    exact ⟨by linarith, h'⟩
  · rintro ⟨h, h'⟩
    exact ⟨by linarith, h'⟩

/-- Two recovery times agree when each is matched by the other. -/
lemma agree_map_iff (a b : Option ℚ) (rto : ℚ → ℚ) :
    Agree (a.map rto) (b.map rto) ↔
      (∀ x, a = some x → ∃ y, b = some y ∧ Within (rto y) (rto x)) ∧
        ∀ y, b = some y → ∃ x, a = some x ∧ Within (rto x) (rto y) := by
  unfold Agree
  cases a with
  | none => cases b <;> simp
  | some x =>
    cases b with
    | none => simp
    | some y =>
      simp only [Option.map_some, reduceCtorEq, false_and, Option.some.injEq, false_or,
        exists_and_left, exists_eq_left', forall_eq', abs_double_sub_lt_iff]

end First

/-! ### The loaded run -/

variable {std sum : List ℚ → ℚ} {m : Measured} {faultAtS : ℚ}

lemma rtoOf_mono (faultAtS : ℚ) : Monotone (rtoOf faultAtS) :=
  fun _ _ h => roundDouble_mono 3 (double_mono (sub_le_sub_right h faultAtS))

/-- Rounding an offset moves the recovery time by less than a second. -/
lemma within_rtoOf_roundDouble {x : ℚ} (hx : |x| ≤ 2 ^ 36) (hf : |faultAtS| ≤ 2 ^ 36) :
    Within (rtoOf faultAtS (roundDouble 3 x)) (rtoOf faultAtS x) ∧
      Within (rtoOf faultAtS x) (rtoOf faultAtS (roundDouble 3 x)) := by
  have hx' := abs_le.mp hx
  have hf' := abs_le.mp hf
  have hround := abs_le.mp (abs_roundDouble_sub_le (hx.trans (by norm_num)))
  have hnear : ∀ y, |y| ≤ 2 ^ 37 → |rtoOf faultAtS y - (y - faultAtS)| ≤ 1 / 500 := by
    intro y hy
    have hy' := abs_le.mp hy
    have hsub : |y - faultAtS| ≤ 2 ^ 40 := by
      rw [abs_le]
      constructor <;> norm_num at hy' hf' ⊢ <;> linarith
    have hdouble := abs_le.mp (abs_double_sub_le_of_abs_le hsub)
    have hsize : |double (y - faultAtS)| ≤ 2 ^ 39 := by
      rw [abs_le]
      constructor <;> norm_num at hy' hf' hdouble ⊢ <;> linarith
    have hrto := abs_le.mp (abs_roundDouble_sub_le hsize)
    unfold rtoOf
    rw [abs_le]
    norm_num at hdouble hrto ⊢
    constructor <;> linarith
  have hsize : |roundDouble 3 x| ≤ 2 ^ 37 := by
    rw [abs_le]
    constructor <;> norm_num at hx' hround ⊢ <;> linarith
  have ha := abs_le.mp (hnear x (hx.trans (by norm_num)))
  have hb := abs_le.mp (hnear _ hsize)
  rw [← abs_double_sub_lt_iff]
  have hdiff : |rtoOf faultAtS x - rtoOf faultAtS (roundDouble 3 x)| ≤ 1 / 2 := by
    rw [abs_le]
    norm_num at hround ⊢
    constructor <;> linarith
  have hfinal := abs_le.mp (abs_double_sub_le_of_abs_le (hdiff.trans (by norm_num)))
  have hdiff' := abs_le.mp hdiff
  rw [abs_lt]
  norm_num at hfinal ⊢
  constructor <;> linarith

lemma recordedSeries_ordered (m : Measured) : Ordered Sample.offsetS m.recordedSeries :=
  List.pairwise_map.mpr (m.series_ordered.imp fun h => roundDouble_mono 3 h)

lemma performance_no_fault {run : Run} {alignment : ClockAlignment}
    (h : run.events.injectedAtOffsetS = none) :
    ∃ p, performance std sum run alignment = .ok p ∧ p.rtoS = none := by
  unfold performance
  rw [faultOffsets_wallOffsetS, h]
  exact ⟨_, rfl, rfl⟩

lemma reportUndefined_rtoS (out : PerformanceRto) (floor : ℚ) (settled : PostFaultState) :
    (reportUndefined out floor settled).rtoS = out.rtoS := by
  unfold reportUndefined
  dsimp only
  split
  · split <;> rfl
  · rfl

/-- On the harness clock the fault has one position, and the report is the recovery time
there. -/
lemma performance_exact {run : Run} {alignment : ClockAlignment} {wall : ℚ}
    (hexact : onWall run alignment = true) (hwall : run.events.injectedAtOffsetS = some wall) :
    ∃ p, performance std sum run alignment = .ok p ∧
      p.rtoS = (recovered sum (series run alignment) (recoveryThreshold run) (recoveryHoldS run)
        wall).map (rtoOf wall) := by
  have hpoints : faultPoints run alignment wall = .ok [wall] := by
    unfold faultPoints
    rw [if_pos hexact]
  obtain ⟨state, hstate⟩ := @postFaultSteadyState_ok std run alignment fun wall =>
    ⟨wall, by rw [separation, if_pos hexact]⟩
  obtain ⟨out, floor, rtos, -, hout, hrtos, hp⟩ := performance_of_points hwall hpoints hstate
  refine ⟨_, hp, ?_⟩
  have hrto : (recompute sum (series run alignment) (recoveryThreshold run) (recoveryHoldS run)
      wall).rtoS = (recovered sum (series run alignment) (recoveryThreshold run) (recoveryHoldS run)
        wall).map (rtoOf wall) := by
    rfl
  rw [List.map_singleton, hrto] at hrtos
  rw [hrtos]
  cases recovered sum (series run alignment) (recoveryThreshold run) (recoveryHoldS run) wall with
  | none => simp [reportUndefined_rtoS, hout]
  | some r => simp [List.reduceOption, reportDefined]

/-! ### When the two agree -/

lemma performanceRtoS_eq (h : m.faultOffset = some faultAtS) :
    m.performanceRtoS sum = (recovered sum m.series m.recoveryThreshold m.recoveryHoldS faultAtS).map
      (rtoOf faultAtS) := by
  unfold Measured.performanceRtoS
  rw [h]
  rfl

/-- The recomputed recovery time is the one of the recorded series. -/
lemma rederived_iff (h : m.faultOffset = some faultAtS) {rto : Option ℚ} :
    Rederived std sum m rto ↔
      (recovered sum m.recordedSeries m.recoveryThreshold m.recoveryHoldS faultAtS).map
        (rtoOf faultAtS) = rto := by
  obtain ⟨alignment, halign, hexact⟩ := m.align_exact
  obtain ⟨p, hp, hrto⟩ := @performance_exact std sum (m.recordedRun sum) alignment faultAtS hexact h
  rw [m.series_recorded hexact] at hrto
  constructor
  · rintro ⟨alignment', p', halign', hp', hrto'⟩
    obtain rfl : alignment = alignment' := Except.ok.inj (halign.symm.trans halign')
    obtain rfl : p = p' := Except.ok.inj (hp.symm.trans hp')
    exact hrto.symm.trans hrto'
  · exact fun h => ⟨alignment, p, halign, hp, hrto.trans h⟩

lemma agrees_of_no_fault (h : m.faultOffset = none) : AgreesWithRecorded std sum m := by
  obtain ⟨alignment, halign, -⟩ := m.align_exact
  obtain ⟨p, hp, hrto⟩ := @performance_no_fault std sum (m.recordedRun sum) alignment h
  refine ⟨none, ⟨alignment, p, halign, hp, hrto⟩, Or.inl ⟨?_, rfl⟩⟩
  unfold Measured.performanceRtoS
  rw [h]
  rfl

lemma agrees_iff_agree (h : m.faultOffset = some faultAtS) :
    AgreesWithRecorded std sum m ↔
      Agree ((recovered sum m.series m.recoveryThreshold m.recoveryHoldS faultAtS).map
          (rtoOf faultAtS))
        ((recovered sum m.recordedSeries m.recoveryThreshold m.recoveryHoldS faultAtS).map
          (rtoOf faultAtS)) := by
  unfold AgreesWithRecorded
  simp only [rederived_iff h, performanceRtoS_eq h, exists_eq_left']

/-! ### Ticks that are not moved -/

section Unmoved

variable {start : Sample} (h : Unmoved m faultAtS start)

include h

lemma baselineTps_recordedSeries :
    baselineTps sum m.recordedSeries faultAtS = baselineTps sum m.series faultAtS := by
  have hpre : (m.recordedSeries.filter fun s => s.offsetS < faultAtS).map Sample.tps =
      (m.series.filter fun s => s.offsetS < faultAtS).map Sample.tps := by
    rw [Measured.recordedSeries, List.filter_map, List.map_map]
    congr 1
    exact List.filter_congr fun s hs => decide_eq_decide.mpr (h.fault s hs)
  unfold baselineTps
  rw [hpre]

/-- Throughput holds from a tick on on both timelines or on neither. -/
lemma sustainedFrom_recorded {floor : ℚ} {pre rest : List Sample}
    (hsplit : m.series = pre ++ start :: rest) :
    SustainedFrom m.series faultAtS floor m.recoveryHoldS pre start rest ↔
      SustainedFrom m.recordedSeries faultAtS floor m.recoveryHoldS (pre.map recordedSample)
        (recordedSample start) (rest.map recordedSample) := by
  have hord := m.series_ordered
  rw [hsplit] at hord
  have hafter : ∀ s ∈ start :: rest, start.offsetS ≤ s.offsetS := by
    intro s hs
    rcases List.mem_cons.mp hs with rfl | hs
    · exact le_refl _
    · exact (List.pairwise_cons.mp (List.pairwise_append.mp hord).2.1).1 s hs
  have hmem : ∀ s ∈ start :: rest, s ∈ m.series := fun s hs =>
    hsplit ▸ List.mem_append_right pre hs
  have hbefore : ∀ s ∈ pre ++ [start], s ∈ m.series := by
    intro s hs
    rw [hsplit, List.append_cons]
    exact List.mem_append_left rest hs
  have hfault : ∀ s ∈ m.series, (faultAtS ≤ s.offsetS ↔ faultAtS ≤ roundDouble 3 s.offsetS) := by
    intro s hs
    rw [← not_lt, ← not_lt, h.fault s hs]
  have hstart := hmem start List.mem_cons_self
  have hrest : (recordedSample start :: rest.map recordedSample) =
      (start :: rest).map recordedSample := rfl
  have hpre : pre.map recordedSample ++ [recordedSample start] =
      (pre ++ [start]).map recordedSample := by simp
  unfold SustainedFrom
  rw [hrest, hpre]
  refine and_congr (hfault start hstart) (and_congr ?_ (and_congr ?_ ?_))
  · rw [List.forall_mem_map]
    refine forall₂_congr fun s hs => ?_
    exact imp_congr (hfault s (hbefore s hs)) (h.kept s (hbefore s hs)).symm
  · rw [Measured.recordedSeries, List.getLast?_map]
    cases hlast : m.series.getLast? with
    | none => simp
    | some last => simpa using not_congr (h.long last hlast).symm
  · rw [List.forall_mem_map]
    refine forall₂_congr fun s hs => ?_
    simp only [recordedSample_offsetS, recordedSample_tps, hafter s hs,
      roundDouble_mono 3 (hafter s hs), true_imp_iff, h.window s (hmem s hs)]

end Unmoved

/-! ### When the two agree, tick by tick -/

lemma series_size {s : Sample} (h : s ∈ m.series) : |s.offsetS| ≤ 2 ^ 36 := by
  obtain ⟨p, hp, rfl⟩ := List.mem_map.mp h
  have hreading : |p.1| ≤ clockRange := by
    obtain ⟨q, hq, hqp⟩ := m.timed_mem hp
    exact hqp ▸ m.readings q hq
  exact (abs_double_sub_le_range hreading m.zeroReading).trans (by norm_num)

lemma faultOffset_size (h : m.faultOffset = some faultAtS) : |faultAtS| ≤ 2 ^ 36 := by
  obtain ⟨t, ht, rfl⟩ := Option.map_eq_some_iff.mp h
  have hrange := abs_le.mp
    (abs_double_sub_le_range (m.faultReading t (Option.mem_def.mpr ht)) m.zeroReading)
  have hsize : |double (t - m.tZero)| ≤ 2 ^ 39 := by
    rw [abs_le]
    constructor <;> norm_num at hrange ⊢ <;> linarith
  have hround := abs_le.mp (abs_roundDouble_sub_le hsize)
  rw [abs_le]
  norm_num at hrange hround ⊢
  constructor <;> linarith

/-- Every start is matched on the other timeline exactly when those are at which rounding moves a
comparison: any other is a start there too. -/
lemma matched_iff (hfault : m.faultOffset = some faultAtS) :
    ((∀ r, LiveStart sum m faultAtS r →
        ∃ q, RecordedStart sum m faultAtS q ∧ Within (rtoOf faultAtS q) (rtoOf faultAtS r)) ∧
      ∀ q, RecordedStart sum m faultAtS q →
        ∃ r, LiveStart sum m faultAtS r ∧ Within (rtoOf faultAtS r) (rtoOf faultAtS q)) ↔
      HarmlessRounding sum m faultAtS := by
  have hclose : ∀ s ∈ m.series, _ := fun s hs =>
    within_rtoOf_roundDouble (series_size hs) (faultOffset_size hfault)
  constructor
  · rintro ⟨hlive, hrecorded⟩
    exact ⟨fun s _ _ hs => hlive s.offsetS hs, fun s _ _ hs => hrecorded _ hs⟩
  · intro h
    refine ⟨fun r hr => ?_, fun q hq => ?_⟩
    · obtain ⟨hpos, pre, start, rest, hsplit, rfl, hholds⟩ := id hr
      have hmem : start ∈ m.series := hsplit ▸ by simp
      by_cases hmoved : Unmoved m faultAtS start
      · have hbase := @baselineTps_recordedSeries sum m faultAtS start hmoved
        have hrecorded : m.recordedSeries = pre.map recordedSample ++
            recordedSample start :: rest.map recordedSample := by
          rw [Measured.recordedSeries, hsplit, List.map_append, List.map_cons]
        refine ⟨_, ⟨hbase.symm ▸ hpos, _, _, _, hrecorded, rfl, ?_⟩, (hclose start hmem).1⟩
        rw [hbase]
        exact (sustainedFrom_recorded hmoved hsplit).mp hholds
      · exact h.live start hmem hmoved hr
    · obtain ⟨hpos, pre', start', rest', hsplit', rfl, hholds⟩ := id hq
      obtain ⟨pre, tail, hsplit, rfl, htail⟩ := List.map_eq_append_iff.mp hsplit'
      obtain ⟨start, rest, rfl, rfl, rfl⟩ := List.map_eq_cons_iff.mp htail
      have hmem : start ∈ m.series := hsplit ▸ by simp
      by_cases hmoved : Unmoved m faultAtS start
      · have hbase := @baselineTps_recordedSeries sum m faultAtS start hmoved
        rw [hbase] at hpos hholds
        refine ⟨_, ⟨hpos, pre, start, rest, hsplit, rfl, ?_⟩, (hclose start hmem).2⟩
        exact (sustainedFrom_recorded hmoved hsplit).mpr hholds
      · exact h.recorded start hmem hmoved hq

lemma agrees_iff_harmless (h : m.faultOffset = some faultAtS) :
    AgreesWithRecorded std sum m ↔ HarmlessRounding sum m faultAtS := by
  have hlive := recovered_isFirst sum m.series_ordered m.recoveryThreshold m.recoveryHoldS faultAtS
  have hrecorded := recovered_isFirst sum (recordedSeries_ordered m) m.recoveryThreshold
    m.recoveryHoldS faultAtS
  have hmono := rtoOf_mono faultAtS
  rw [agrees_iff_agree h, agree_map_iff, matched_first_iff hlive hrecorded hmono,
    matched_first_iff hrecorded hlive hmono]
  exact matched_iff h

/-- **The two recovery times agree exactly when rounding is harmless.** -/
theorem agrees_iff (std sum : List ℚ → ℚ) (m : Measured) :
    AgreesWithRecorded std sum m ↔ ∀ f, m.faultOffset = some f → HarmlessRounding sum m f := by
  constructor
  · exact fun h f hf => (agrees_iff_harmless hf).mp h
  · intro h
    cases hfault : m.faultOffset with
    | none => exact agrees_of_no_fault hfault
    | some f => exact (agrees_iff_harmless hfault).mpr (h f hfault)

/-- A line of reads at the end of the `n`th second. -/
def readLine (n : ℕ) : Workload.Sample where
  kind := .periodic
  elapsedS := .finite n
  op := "read"
  errorsCum := 0
  values := Finmap.singleton "tps" (.finite 100)

def readInterval (n : ℕ) : Ticks.Interval where
  mark := .finite n
  elements := [readLine n]
  nonempty := List.cons_ne_nil _ _
  same := fun s hs => by rw [List.mem_singleton.mp hs]; rfl
  measured := fun s hs => by rw [List.mem_singleton.mp hs]; rfl
  distinct := List.nodup_singleton _

/-- Each of the first ten lines arrives 0.2 ms before the end of its second, the others on
it. The fault is injected after ten seconds, when ten lines are in. -/
def edge : Measured where
  tZero := 0
  concurrency := 8
  recoveryThreshold := double (4 / 5)
  recoveryHoldS := 10
  atMonotonic := some 10
  arrivals := (List.range' 1 22).map fun n : ℕ =>
    (if n ≤ 10 then double (n - 1 / 5000) else n, readLine n)
  stream :=
    { intervals := (List.range' 1 22).map readInterval
      increasing := by decide +kernel
      numbered := List.forall_mem_map.mpr fun n _ (h : Number.finite n = .nan) => (nomatch h) }
  covers := rfl
  separated := by
    unfold Stream.Separated
    decide +kernel
  nonempty := List.cons_ne_nil _ _
  operations := List.forall_mem_map.mpr fun _ _ s hs => by
    rw [List.mem_singleton.mp hs]
    exact (by decide : ¬ IsTotal "read")
  finiteOffset := List.forall_mem_map.mpr fun n _ => ⟨n, rfl⟩
  finiteTps := List.forall_mem_map.mpr fun _ _ s hs => by
    rw [List.mem_singleton.mp hs]
    exact ⟨100, rfl⟩
  monotone := by decide +kernel
  readings := by decide +kernel
  zeroReading := by decide +kernel
  faultReading := by decide +kernel

/-- The tenth tick is before the fault when it arrives and on it once its offset is rounded:
the recovery took a second live and no time in the file. -/
theorem edge_disagrees : edge.performanceRtoS floatSum = some 1 ∧
    Rederived (fun _ => 0) floatSum edge (some 0) ∧
      ¬ AgreesWithRecorded (fun _ => 0) floatSum edge := by
  have hlive : edge.performanceRtoS floatSum = some 1 := by decide +kernel
  have hrecorded : ∀ {rto}, Rederived (fun _ => 0) floatSum edge rto ↔ some 0 = rto := by
    intro rto
    have hfault : edge.faultOffset = some 10 := by decide +kernel
    have hzero : (recovered floatSum edge.recordedSeries edge.recoveryThreshold
        edge.recoveryHoldS 10).map (rtoOf 10) = some 0 := by decide +kernel
    rw [rederived_iff hfault, hzero]
  refine ⟨hlive, hrecorded.mpr rfl, ?_⟩
  rintro ⟨rto, hrto, hagree⟩
  rw [hlive, ← hrecorded.mp hrto] at hagree
  rcases hagree with ⟨h, -⟩ | ⟨x, y, hx, hy, hxy⟩
  · cases h
  · cases hx
    cases hy
    revert hxy
    decide +kernel

/-- **Rounding that moves no comparison keeps the recovery time.** -/
theorem agrees_of_unmoved (std sum : List ℚ → ℚ)
    (h : ∀ f, m.faultOffset = some f → ∀ s ∈ m.series, Unmoved m f s) :
    AgreesWithRecorded std sum m := by
  cases hfault : m.faultOffset with
  | none => exact agrees_of_no_fault hfault
  | some f =>
    have hunmoved := h f hfault
    exact (agrees_iff_harmless hfault).mpr
      ⟨fun s hs hmoved => absurd (hunmoved s hs) hmoved,
        fun s hs hmoved => absurd (hunmoved s hs) hmoved⟩

end CrdbLab.LivePerformance
