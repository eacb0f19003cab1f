import CrdbLab.Validation

/-!
What the check of the operation types enforces.

Every interval of a run should report the same set of operation types. The check compares the
sizes of these sets, so that an operation may stand in for another.
-/

namespace CrdbLab.OpCoverage

open CrdbLab.Lib.Groups CrdbLab.Validation

/-- The operation types that an interval reports. -/
def opsAt (t : Table) (i : ℤ ×ₗ ℤ ×ₗ ℚ) : Finset String :=
  ((t.rows.filter fun r => r.interval = i).filterMap Row.op).toFinset

/-- Two intervals of one tier and repetition. -/
def SameRun (r r' : Row) : Prop := r.concurrency = r'.concurrency ∧ r.repetition = r'.repetition

/-- Within every tier and repetition every interval reports the same set. -/
def Covered (t : Table) : Prop :=
  ∀ r ∈ t.rows, ∀ r' ∈ t.rows, SameRun r r' → opsAt t r.interval = opsAt t r'.interval

/-- The check finds nothing exactly in the tables that are covered. -/
def Enforces (t : Table) : Prop := checkOpCoverage t = [] ↔ Covered t

variable {t : Table}

lemma sameRun_iff {r r' : Row} : SameRun r r' ↔ r.run = r'.run := by
  simp [SameRun, Row.run]

/-- Within its run, the interval of a row is the group of its elapsed time. -/
lemma rowsOf_elapsed (r : Row) :
    rowsOf (fun r : Row => some r.elapsedS) (rowsOf (fun r : Row => some r.run) t.rows r.run)
      r.elapsedS = t.rows.filter fun r' => r'.interval = r.interval := by
  rw [rowsOf, rowsOf, List.filter_filter]
  refine List.filter_congr fun r' _ => ?_
  simp only [Row.run, Row.interval, Option.some.injEq, ← Bool.decide_and, decide_eq_decide,
    EmbeddingLike.apply_eq_iff_eq, Prod.mk.injEq]
  tauto

lemma card_opsAt (r : Row) : (opsAt t r.interval).card =
    nunique ((t.rows.filter fun r' => r'.interval = r.interval).map Row.op) := by
  rw [nunique_eq_card, List.filterMap_map]
  rfl

/-- The counts of a run are the sizes of the sets its intervals report. -/
lemma mem_opCounts {r : Row} {n : ℕ} :
    n ∈ opCounts (rowsOf (fun r : Row => some r.run) t.rows r.run) ↔
      ∃ r' ∈ t.rows, SameRun r' r ∧ (opsAt t r'.interval).card = n := by
  simp only [opCounts, mem_map_groupBy, mem_rowsOf, Option.some.injEq]
  constructor
  · rintro ⟨r', ⟨hr', hrun⟩, -, rfl, hn⟩
    refine ⟨r', hr', sameRun_iff.mpr hrun, ?_⟩
    rw [card_opsAt, ← rowsOf_elapsed, hrun, hn]
  · rintro ⟨r', hr', hrun, hn⟩
    have hrun := sameRun_iff.mp hrun
    refine ⟨r', ⟨hr', hrun⟩, r'.elapsedS, rfl, ?_⟩
    rw [← hrun, rowsOf_elapsed, ← card_opsAt, hn]

/-- The check finds nothing exactly if the sets of each run have one size. -/
lemma checkOpCoverage_eq_nil :
    checkOpCoverage t = [] ↔ ∀ r ∈ t.rows, ∀ r' ∈ t.rows, SameRun r r' →
      (opsAt t r.interval).card = (opsAt t r'.interval).card := by
  have hgroup : ∀ r : Row,
      (opCounts (rowsOf (fun r : Row => some r.run) t.rows r.run)).dedup.length ≤ 1 ↔
        ∀ a ∈ t.rows, SameRun a r → ∀ b ∈ t.rows, SameRun b r →
          (opsAt t a.interval).card = (opsAt t b.interval).card := by
    intro r
    rw [length_dedup_le_one]
    simp only [mem_opCounts]
    constructor
    · intro h a ha har b hb hbr
      exact h _ ⟨a, ha, har, rfl⟩ _ ⟨b, hb, hbr, rfl⟩
    · rintro h x ⟨a, ha, har, rfl⟩ y ⟨b, hb, hbr, rfl⟩
      exact h a ha har b hb hbr
  unfold checkOpCoverage
  rw [filterMap_groupBy_eq_nil]
  simp only [Option.some.injEq, ite_eq_left_iff, reduceCtorEq, imp_false, not_not, forall_eq',
    hgroup]
  constructor
  · intro h r hr r' hr' hsame
    exact h r' hr' r hr hsame r' hr' ⟨rfl, rfl⟩
  · intro h r _ a ha har b hb hbr
    exact h a ha b hb (sameRun_iff.mpr ((sameRun_iff.mp har).trans (sameRun_iff.mp hbr).symm))

/-- **The coverage of the operations is enforced** exactly where sets of one size are equal, or
some run reports sets of two sizes. -/
theorem enforces_iff (t : Table) :
    Enforces t ↔
      (∃ r ∈ t.rows, ∃ r' ∈ t.rows, SameRun r r' ∧
        (opsAt t r.interval).card ≠ (opsAt t r'.interval).card) ∨
      ∀ r ∈ t.rows, ∀ r' ∈ t.rows, SameRun r r' →
        (opsAt t r.interval).card = (opsAt t r'.interval).card →
          opsAt t r.interval = opsAt t r'.interval := by
  have hsizes : Covered t → checkOpCoverage t = [] := fun hcovered =>
    checkOpCoverage_eq_nil.mpr fun r hr r' hr' hsame =>
      congrArg Finset.card (hcovered r hr r' hr' hsame)
  constructor
  · intro h
    by_cases hnone : checkOpCoverage t = []
    · exact Or.inr fun r hr r' hr' hsame _ => h.mp hnone r hr r' hr' hsame
    · left
      rw [checkOpCoverage_eq_nil] at hnone
      push Not at hnone
      exact hnone
  · rintro (⟨r, hr, r', hr', hsame, hne⟩ | hequal)
    · refine ⟨fun hnone => ?_, hsizes⟩
      exact absurd (checkOpCoverage_eq_nil.mp hnone r hr r' hr' hsame) hne
    · refine ⟨fun hnone r hr r' hr' hsame => ?_, hsizes⟩
      exact hequal r hr r' hr' hsame (checkOpCoverage_eq_nil.mp hnone r hr r' hr' hsame)

/-- A row of an interval with a plausible load. -/
def opRow (elapsedS : ℚ) (op : String) : Row where
  concurrency := 8
  repetition := 1
  elapsedS := elapsedS
  op := some op
  tps := some 100
  errorsCum := some 0
  p50Ms := some 5
  p95Ms := some 8
  p99Ms := some 9
  pmaxMs := some 10

/-- A table with all the latency columns. -/
def full (rows : List Row) : Table where
  columns := quantiles
  rows := rows
  recorded := by
    rintro r - c -
    cases c <;> decide

/-- In the second interval one operation has taken the place of another. -/
def replaced : Table :=
  full [opRow 1 "read", opRow 1 "update", opRow 2 "read", opRow 2 "insert"]

theorem replaced_unnoticed : checkOpCoverage replaced = [] ∧ ¬ Covered replaced ∧
    ¬ Enforces replaced := by
  have hnone : checkOpCoverage replaced = [] := by decide +kernel
  have hops : opsAt replaced (opRow 1 "read").interval ≠
      opsAt replaced (opRow 2 "read").interval := by decide +kernel
  have hnot : ¬ Covered replaced := fun h =>
    hops (h (opRow 1 "read") (by simp [replaced, full]) (opRow 2 "read")
      (by simp [replaced, full]) ⟨rfl, rfl⟩)
  exact ⟨hnone, hnot, fun h => hnot (h.mp hnone)⟩

end CrdbLab.OpCoverage
