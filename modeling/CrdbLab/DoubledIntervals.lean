import CrdbLab.AcceptedQuantiles
import CrdbLab.OpCoverage

/-!
Which tables with doubled intervals are noticed.

The check of the cadence takes each interval once, and that of the operations each operation,
so that a copy of a row is invisible to both. It is noticed only where the throughput that is
summed over it, or the order of its error counts, is out of bounds.
-/

namespace CrdbLab.DoubledIntervals

open CrdbLab.Lib.Consecutive CrdbLab.Lib.Groups CrdbLab.Lib.OrderStat CrdbLab.Validation
open CrdbLab.AcceptedQuantiles CrdbLab.OpCoverage

/-- What should be in one row only. -/
def entry (r : Row) : ℤ × ℤ × ℚ × Option String := (r.concurrency, r.repetition, r.elapsedS, r.op)

/-- An operation of an interval occurs in more than one row. -/
def Doubled (t : Table) : Prop := ¬ (t.rows.map entry).Nodup

/-- The checks find something. -/
def Noticed (sort : ElapsedSort) (t : Table) (tpsCeiling : ℚ) : Prop :=
  ∃ report, validate sort t tpsCeiling = .ok report ∧ report.findings ≠ []

section Conditions

variable (sort : ElapsedSort) (t : Table)

def AboveCeiling (tpsCeiling : ℚ) : Prop := ∃ r ∈ t.rows, ∃ x, r.tps = some x ∧ tpsCeiling < x

/-- In some tier the mean latency that the throughput implies is below nine tenths of the
median. -/
def TierOverCounted : Prop :=
  ∃ k ∈ perTick t.rows, overCounted (9 / 10)
    (rowsOf (fun k : TickLoad => some k.concurrency) (perTick t.rows) k.concurrency)

/-- Two distinct neighbouring intervals of a run are not half a second to one and a half
apart. -/
def UnevenlySpaced : Prop :=
  ∃ r ∈ t.rows, ∃ delta ∈ deltas (rowsOf (fun r : Row => some r.run) t.rows r.run),
    1 / 2 < |delta - 1|

/-- Two intervals of a run report sets of operations of different sizes. -/
def UnequallyCovered : Prop :=
  ∃ r ∈ t.rows, ∃ r' ∈ t.rows, SameRun r r' ∧
    (opsAt t r.interval).card ≠ (opsAt t r'.interval).card

/-- In the order of elapsed time the error count of an operation falls. -/
def ErrorsFall : Prop :=
  ∃ r ∈ t.rows, ∃ series, r.series = some series ∧
    ∃ p ∈ consecutive (sort.sortValues (rowsOf Row.series t.rows series)), falls p = true

/-- The check of Little's law finds the column it reads, or does not come to read it. -/
def Readable : Prop := .p50Ms ∈ t.columns ∨ ∀ r ∈ t.rows, ∀ x, r.tps = some x → x ≤ 0

end Conditions

variable {sort : ElapsedSort} {t : Table} {tpsCeiling : ℚ}

/-! ### Each check -/

lemma aboveCeiling_iff : AboveCeiling t tpsCeiling ↔ checkPlausibility t tpsCeiling ≠ [] := by
  rw [ne_eq, checkPlausibility_eq_nil]
  push Not
  exact Iff.rfl

lemma misordered_table_iff :
    (∃ r ∈ t.rows, NeighboursMisordered t r) ↔ checkQuantileOrdering t ≠ [] := by
  rw [ne_eq, checkQuantileOrdering_eq_nil]
  push Not
  simp only [← misordered_iff, ne_eq, Bool.not_eq_false]

lemma working_eq_nil : working t.rows = [] ↔ ∀ r ∈ t.rows, ∀ x, r.tps = some x → x ≤ 0 := by
  rw [working, List.filter_eq_nil_iff]
  refine forall₂_congr fun r _ => ?_
  cases r.tps <;> simp

lemma not_tierOverCounted_of_idle (h : working t.rows = []) : ¬ TierOverCounted t := by
  rintro ⟨k, hk, -⟩
  simp [perTick, h, groupBy] at hk

/-- Where it can be evaluated, Little's law is checked tier by tier. -/
lemma checkLittlesLaw_of_readable (h : Readable t) :
    ∃ l, checkLittlesLaw t (9 / 10) = .ok l ∧ (TierOverCounted t ↔ l ≠ []) := by
  unfold checkLittlesLaw
  split
  · next hidle => exact ⟨[], rfl, by simpa using not_tierOverCounted_of_idle hidle⟩
  · next hworking =>
    rw [if_pos (h.resolve_right fun hidle => hworking (working_eq_nil.mpr hidle))]
    refine ⟨_, rfl, ?_⟩
    rw [ne_eq, filterMap_groupBy_eq_nil, TierOverCounted]
    simp only [Option.some.injEq, forall_eq', ite_eq_right_iff, reduceCtorEq, imp_false]
    push Not
    exact Iff.rfl

lemma checkLittlesLaw_of_unreadable (h : ¬ Readable t) :
    checkLittlesLaw t (9 / 10) = .error .p50Ms := by
  obtain ⟨hcolumn, hworking⟩ := not_or.mp h
  rw [checkLittlesLaw, if_neg fun hidle => hworking (working_eq_nil.mp hidle), if_neg hcolumn]

lemma unevenlySpaced_iff : UnevenlySpaced t ↔ checkSampleCadence t 1 ≠ [] := by
  rw [ne_eq, checkSampleCadence, filterMap_groupBy_eq_nil, UnevenlySpaced]
  simp only [Option.some.injEq, forall_eq', ite_eq_left_iff, reduceCtorEq, imp_false, not_not,
    List.filter_eq_nil_iff, irregular, one_mul, decide_eq_true_eq]
  push Not
  exact Iff.rfl

lemma unequallyCovered_iff : UnequallyCovered t ↔ checkOpCoverage t ≠ [] := by
  rw [ne_eq, checkOpCoverage_eq_nil]
  push Not
  exact Iff.rfl

lemma errorsFall_iff : ErrorsFall sort t ↔ checkErrorMonotonicity sort t ≠ [] := by
  rw [ne_eq, checkErrorMonotonicity, filterMap_groupBy_eq_nil, ErrorsFall]
  simp only [ite_eq_right_iff, reduceCtorEq, imp_false, List.any_eq_true]
  push Not
  exact Iff.rfl

/-! ### All of them -/

variable (sort t tpsCeiling) in
/-- A check has something to find. -/
def OutOfBounds : Prop :=
  AboveCeiling t tpsCeiling ∨ (∃ r ∈ t.rows, NeighboursMisordered t r) ∨ TierOverCounted t ∨
    UnevenlySpaced t ∨ UnequallyCovered t ∨ ErrorsFall sort t

lemma noticed_iff : Noticed sort t tpsCeiling ↔ Readable t ∧ OutOfBounds sort t tpsCeiling := by
  by_cases hreadable : Readable t
  · obtain ⟨l, hl, htier⟩ := checkLittlesLaw_of_readable hreadable
    have hvalidate : validate sort t tpsCeiling =
        .ok ⟨checkPlausibility t tpsCeiling ++ checkQuantileOrdering t ++ l ++
          checkSampleCadence t 1 ++ checkOpCoverage t ++ checkErrorMonotonicity sort t⟩ := by
      rw [validate, hl]
      rfl
    simp only [Noticed, hvalidate, Except.ok.injEq, exists_eq_left', OutOfBounds, hreadable,
      true_and, aboveCeiling_iff, misordered_table_iff, htier, unevenlySpaced_iff,
      unequallyCovered_iff, errorsFall_iff, ne_eq, List.append_eq_nil_iff]
    tauto
  · have hvalidate : validate sort t tpsCeiling = .error .p50Ms := by
      rw [validate, checkLittlesLaw_of_unreadable hreadable]
      rfl
    simp [Noticed, hvalidate, hreadable]

/-- **A copy of a row is invisible** to the checks of the cadence and of the operations: they
find the same in tables that hold the same rows. -/
lemma blind_to_copies {t' : Table} (h : ∀ r, r ∈ t.rows ↔ r ∈ t'.rows) :
    checkSampleCadence t 1 = checkSampleCadence t' 1 ∧ checkOpCoverage t = checkOpCoverage t' := by
  have himage : ∀ {A : Type} (f : Row → A) {g g' : List Row}, (∀ r, r ∈ g ↔ r ∈ g') →
      ∀ x, x ∈ g.map f ↔ x ∈ g'.map f := by
    intro A f g g' hg x
    simp only [List.mem_map, hg]
  have hdeltas : ∀ {g g' : List Row}, (∀ r, r ∈ g ↔ r ∈ g') → deltas g = deltas g' := by
    intro g g' hg
    rw [deltas, sorted_dedup_congr (himage Row.elapsedS hg), deltas]
  have hcounts : ∀ {g g' : List Row}, (∀ r, r ∈ g ↔ r ∈ g') → opCounts g = opCounts g' :=
    fun hg => map_groupBy_congr hg fun _ _ _ hrows => nunique_congr (himage Row.op hrows)
  refine ⟨filterMap_groupBy_congr h fun k g g' hg => ?_,
    filterMap_groupBy_congr h fun k g g' hg => ?_⟩
  · simp only [hdeltas hg]
  · simp only [hcounts hg]

/-- **Doubled intervals are noticed** exactly if some check has something to find apart from
the doubling. -/
theorem doubled_noticed_iff (sort : ElapsedSort) (t : Table) (tpsCeiling : ℚ) :
    (Doubled t → Noticed sort t tpsCeiling) ↔
      ¬ Doubled t ∨ Readable t ∧ OutOfBounds sort t tpsCeiling := by
  rw [noticed_iff, imp_iff_not_or]

/-- Two intervals of a run, the second of them in two rows. -/
def twice : Table := full [opRow 1 "read", opRow 2 "read", opRow 2 "read"]

theorem twice_unnoticed : Doubled twice ∧
    validate stableSort twice defaultTpsCeiling = .ok ⟨[]⟩ ∧
    ¬ (Doubled twice → Noticed stableSort twice defaultTpsCeiling) := by
  have hdoubled : Doubled twice := by
    unfold Doubled
    decide +kernel
  have hvalidate : validate stableSort twice defaultTpsCeiling = .ok ⟨[]⟩ := by decide +kernel
  refine ⟨hdoubled, hvalidate, fun h => ?_⟩
  obtain ⟨report, hreport, hne⟩ := h hdoubled
  rw [hvalidate, Except.ok.injEq] at hreport
  exact hne (by rw [← hreport])

end CrdbLab.DoubledIntervals
