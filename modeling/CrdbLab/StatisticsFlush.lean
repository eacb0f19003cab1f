import CrdbLab.RowMatch

/-!
The row-match check when the server flushes its statistics during the tier.

A flush is inferred from the last sample alone: the count did not grow. When more statements
ran since the flush than were counted before the tier, the count has grown all the same, and
the difference is taken across the flush.
-/

namespace CrdbLab.StatisticsFlush

open CrdbLab.RowMatch

/-! ### The statistics over the tier -/

/-- The statistics in memory: a statement reads one row or none. -/
structure Counters where
  count : ℕ
  rows : ℕ
  rows_le_count : rows ≤ count
  deriving DecidableEq, Repr

inductive Event
  | executed (matched : Bool)
  | flushed
  deriving DecidableEq, Repr

def Counters.step (c : Counters) : Event → Counters
  | .executed true => ⟨c.count + 1, c.rows + 1, Nat.succ_le_succ c.rows_le_count⟩
  | .executed false => ⟨c.count + 1, c.rows, Nat.le_succ_of_le c.rows_le_count⟩
  | .flushed => ⟨0, 0, le_rfl⟩

def run (start : Counters) (history : List Event) : Counters :=
  history.foldl Counters.step start

/-- The statements since the last flush, or since the start where there was none. -/
def sinceFlush (history : List Event) : List Bool :=
  history.foldl (fun since event =>
    match event with
    | .executed matched => since ++ [matched]
    | .flushed => []) []

def Counters.sample (c : Counters) : Sample := ⟨c.count, c.rows⟩

@[simp] lemma Counters.sample_count (c : Counters) : c.sample.count = c.count := rfl

@[simp] lemma Counters.sample_rows (c : Counters) : c.sample.rows = c.rows := rfl

section Statement

variable (probe : RowMatchProbe) (report : PreflightReport) (start : Counters)
  (history : List Event)

/-- Without corroboration the probe adds a check that passes. -/
def Passes : Prop :=
  ∃ check rate, check.passed = true ∧
    (probe.start start.sample).finish (run start history).sample report false =
      .ok (⟨report.checks ++ [check]⟩, rate)

/-- If the check passes, enough of the statements since the last flush matched a row. -/
def Sound : Prop :=
  Passes probe report start history →
    minRowMatchRate * (sinceFlush history).length ≤ ((sinceFlush history).count true : ℚ)

/-- More statements ran since a flush than had been counted at the start, too few of them
matched a row, and the statements of the start that did not match make up for it. -/
structure Masked : Prop where
  flush : .flushed ∈ history
  outgrown : start.count < (sinceFlush history).length
  short : ((sinceFlush history).count true : ℚ) < minRowMatchRate * (sinceFlush history).length
  hidden : minRowMatchRate * ((sinceFlush history).length - start.count) ≤
    ((sinceFlush history).count true : ℚ) - start.rows

end Statement

/-! ### What the counters hold -/

lemma run_snoc (start : Counters) (history : List Event) (event : Event) :
    run start (history ++ [event]) = (run start history).step event := by
  simp [run]

lemma sinceFlush_executed (history : List Event) (matched : Bool) :
    sinceFlush (history ++ [.executed matched]) = sinceFlush history ++ [matched] := by
  simp [sinceFlush]

lemma sinceFlush_flushed (history : List Event) :
    sinceFlush (history ++ [.flushed]) = [] := by
  simp [sinceFlush]

/-- After a flush the counters are those of the statements since then, and without one those
of the start as well. -/
lemma run_counters (start : Counters) (history : List Event) :
    (run start history).count =
        (if .flushed ∈ history then 0 else start.count) + (sinceFlush history).length ∧
      (run start history).rows =
        (if .flushed ∈ history then 0 else start.rows) + (sinceFlush history).count true := by
  induction history using List.reverseRecOn with
  | nil => simp [run, sinceFlush]
  | append_singleton history event ih =>
    rw [run_snoc]
    cases event with
    | executed matched =>
      rw [sinceFlush_executed]
      cases matched with
      | true => simp [Counters.step, ih, add_assoc]
      | false => simp [Counters.step, ih, add_assoc]
    | flushed =>
      rw [sinceFlush_flushed]
      simp [Counters.step]

/-! ### When the check passes -/

variable {probe : RowMatchProbe} {report : PreflightReport} {start : Counters}
  {history : List Event}

/-- Of a check that was added, that it passes is what it was added with. -/
lemma exists_passed_iff {passed : Bool} {detail : String} {observed : Observed}
    {rate : Option ℚ} :
    (∃ check rate', check.passed = true ∧
      (.ok (report.add passed detail observed, rate) :
        Except PreflightError (PreflightReport × Option ℚ)) =
          .ok (⟨report.checks ++ [check]⟩, rate')) ↔ passed = true := by
  constructor
  · rintro ⟨check, rate', hpassed, hresult⟩
    simp only [PreflightReport.add, Except.ok.injEq, Prod.mk.injEq, Preflight.PreflightReport.mk.injEq,
      List.append_cancel_left_eq, List.cons.injEq, and_true] at hresult
    rw [← hresult.1] at hpassed
    exact hpassed
  · exact fun h => ⟨_, _, h, rfl⟩

lemma passes_iff : Passes probe report start history ↔
    0 < (evidence start.sample (run start history).sample).executions ∧
      minRowMatchRate * (evidence start.sample (run start history).sample).executions ≤
        (evidence start.sample (run start history).sample).matched := by
  unfold Passes RowMatchProbe.finish RowMatchProbe.start
  dsimp only
  generalize evidence start.sample (run start history).sample = e
  rcases le_or_gt e.executions 0 with hnone | hsome
  · rw [iff_false_right fun h => absurd h.1 (not_lt.mpr hnone)]
    simp only [hnone, true_and, Bool.false_eq_true, if_false, if_true]
    split_ifs
    · rw [exists_passed_iff]
      decide
    · rw [exists_passed_iff]
      decide
  · have hgone : ¬ e.executions ≤ 0 := not_le.mpr hsome
    simp only [hgone, false_and, if_false]
    rw [exists_passed_iff, decide_eq_true_eq, le_div_iff₀ hsome, and_iff_right hsome]

/-! ### When it is sound -/

/-- Without a flush the difference is taken over the statements of the tier. -/
lemma sound_of_not_flushed (h : .flushed ∉ history) : Sound probe report start history := by
  intro hpasses
  obtain ⟨hpos, hrate⟩ := passes_iff.mp hpasses
  obtain ⟨hcount, hrows⟩ := run_counters start history
  rw [if_neg h] at hcount hrows
  rcases Nat.eq_zero_or_pos (sinceFlush history).length with hnil | hsome
  · rw [hnil]
    simp
  · have hgrown : start.sample.count < (run start history).sample.count := by
      rw [Counters.sample_count, Counters.sample_count, hcount]
      exact_mod_cast Nat.lt_add_of_pos_right hsome
    rw [evidence_of_grown hgrown] at hrate
    simp only [Counters.sample_count, Counters.sample_rows, hcount, hrows] at hrate
    push_cast at hrate
    simpa using hrate

/-- After a flush the last sample is the statements since then. -/
lemma sound_of_flushed (h : .flushed ∈ history) :
    Sound probe report start history ↔ ¬ Masked start history := by
  obtain ⟨hcount, hrows⟩ := run_counters start history
  rw [if_pos h, zero_add] at hcount hrows
  unfold Sound
  rw [passes_iff]
  rcases Nat.lt_or_ge start.count (sinceFlush history).length with hout | hfew
  · have hgrown : start.sample.count < (run start history).sample.count := by
      rw [Counters.sample_count, Counters.sample_count, hcount]
      exact_mod_cast hout
    rw [evidence_of_grown hgrown]
    simp only [Counters.sample_count, Counters.sample_rows, hcount, hrows]
    have hpos : (0 : ℚ) < (sinceFlush history).length - start.count := by
      rw [sub_pos]
      exact_mod_cast hout
    constructor
    · intro hsound hmasked
      exact absurd (hsound ⟨hpos, hmasked.hidden⟩) (not_le.mpr hmasked.short)
    · rintro hnot ⟨-, hrate⟩
      by_contra hshort
      exact hnot ⟨h, hout, not_le.mp hshort, hrate⟩
  · refine iff_of_true ?_ fun hmasked => absurd hmasked.outgrown (not_lt.mpr hfew)
    rcases Nat.eq_zero_or_pos (sinceFlush history).length with hnil | hsome
    · intro _
      rw [hnil]
      simp
    · have hle : (run start history).sample.count ≤ start.sample.count := by
        rw [Counters.sample_count, Counters.sample_count, hcount]
        exact_mod_cast hfew
      have hpos : 0 < (run start history).sample.count := by
        rw [Counters.sample_count, hcount]
        exact_mod_cast hsome
      rw [evidence_of_not_grown hle hpos, Counters.sample_count, Counters.sample_rows, hcount,
        hrows]
      exact fun hpasses => hpasses.2

lemma sound_iff_not_masked :
    Sound probe report start history ↔ ¬ Masked start history := by
  by_cases h : .flushed ∈ history
  · exact sound_of_flushed h
  · exact iff_of_true (sound_of_not_flushed h) fun hmasked => h hmasked.flush

/-- Where the counters at the start are at the minimum rate, no history is masked. -/
lemma not_masked_of_rate (h : minRowMatchRate * start.count ≤ start.rows) :
    ¬ Masked start history := by
  intro hmasked
  have hshort := hmasked.short
  have hhidden := hmasked.hidden
  rw [mul_sub] at hhidden
  linarith

/-- A flush, and then statements of which one too few matched a row. -/
def masking (count : ℕ) : List Event :=
  .flushed :: (List.replicate (99 * count + 98) (.executed true) ++
    List.replicate (count + 1) (.executed false))

lemma foldl_replicate_executed (matched : Bool) (k : ℕ) (since : List Bool) :
    (List.replicate k (Event.executed matched)).foldl (fun since event =>
      match event with
      | .executed matched => since ++ [matched]
      | .flushed => []) since = since ++ List.replicate k matched := by
  induction k generalizing since with
  | zero => simp
  | succ k ih => simp [List.replicate_succ, ih]

lemma sinceFlush_masking (count : ℕ) : sinceFlush (masking count) =
    List.replicate (99 * count + 98) true ++ List.replicate (count + 1) false := by
  unfold sinceFlush masking
  rw [List.foldl_cons, List.foldl_append, foldl_replicate_executed, foldl_replicate_executed]
  rfl

lemma masked_masking (h : (start.rows : ℚ) < minRowMatchRate * start.count) :
    Masked start (masking start.count) := by
  have hlen : (sinceFlush (masking start.count)).length = 100 * start.count + 99 := by
    rw [sinceFlush_masking]
    simp
    omega
  have hmatched : (sinceFlush (masking start.count)).count true = 99 * start.count + 98 := by
    rw [sinceFlush_masking, List.count_append, List.count_replicate_self, List.count_replicate]
    rfl
  have hrows : 100 * start.rows + 1 ≤ 99 * start.count := by
    rw [minRowMatchRate] at h
    have : (100 : ℚ) * start.rows < 99 * start.count := by linarith
    exact_mod_cast this
  have hrows' : (100 : ℚ) * start.rows + 1 ≤ 99 * start.count := by exact_mod_cast hrows
  refine ⟨by simp [masking], ?_, ?_, ?_⟩
  · rw [hlen]
    omega
  · rw [hlen, hmatched, minRowMatchRate]
    push_cast
    linarith
  · rw [hlen, hmatched, minRowMatchRate]
    push_cast
    linarith

/-- **The check is sound** in the histories that are not masked, and in all histories from a
start exactly when its counters are at the minimum rate. -/
theorem sound_iff (probe : RowMatchProbe) (report : PreflightReport) (start : Counters) :
    (∀ history, Sound probe report start history ↔ ¬ Masked start history) ∧
    ((∀ history, Sound probe report start history) ↔
      minRowMatchRate * start.count ≤ start.rows) := by
  refine ⟨fun history => sound_iff_not_masked, fun hall => ?_, fun h history => ?_⟩
  · by_contra hlow
    exact sound_iff_not_masked.mp (hall (masking start.count))
      (masked_masking (not_le.mp hlow))
  · exact sound_iff_not_masked.mpr (not_masked_of_rate h)

/-- The counters after ten statements that matched nothing. -/
def mismatched : Counters := ⟨10, 0, by decide⟩

/-- A flush, and fifteen of twenty statements that match a row. -/
def mostlyMatching : List Event :=
  .flushed :: (List.replicate 15 (.executed true) ++ List.replicate 5 (.executed false))

/-- The check passes at a rate of three halves. -/
theorem flush_masks :
    ((RowMatchProbe.start ⟨"usertable", none⟩ mismatched.sample).finish
      (run mismatched mostlyMatching).sample ⟨[]⟩ false).map Prod.snd = .ok (some (3 / 2)) ∧
    ¬ Sound ⟨"usertable", none⟩ ⟨[]⟩ mismatched mostlyMatching := by
  refine ⟨by decide +kernel, fun hsound => ?_⟩
  have hmasked : Masked mismatched mostlyMatching :=
    ⟨by decide +kernel, by decide +kernel, by decide +kernel, by decide +kernel⟩
  exact sound_iff_not_masked.mp hsound hmasked

end CrdbLab.StatisticsFlush
