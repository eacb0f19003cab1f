import CrdbLab.Lib.Rounding
import CrdbLab.Preflight

/-!
Whether the statements of a tier touched rows.

Two samples of the server's counters are differenced over the tier. Where a reset of the
counters destroyed the evidence, and only there, the verdict rests on another detector's word
that the updates did reach data.
-/

namespace CrdbLab.RowMatch

open CrdbLab.Lib.Rounding

/-- Below this rate the keyspace of the generator is not that of the loaded data. -/
def minRowMatchRate : ℚ := 99 / 100

/-! ### The report -/

/-- What a check observed; an entry it does not record reads as missing. -/
structure Observed where
  table : String
  window : Option String := none
  executions : Option ℚ := none
  matched : Option ℚ := none
  matchRate : Option ℚ := none
  sequentialScans : Option ℚ := none
  deriving DecidableEq, Repr

abbrev Check := Preflight.Check Observed

abbrev PreflightReport := Preflight.PreflightReport Observed

/-- The report with one more check on the rows a table was matched in. -/
def PreflightReport.add (report : PreflightReport) (passed : Bool) (detail : String)
    (observed : Observed) : PreflightReport :=
  ⟨report.checks ++ [⟨"row_match", passed, detail, observed⟩]⟩

structure PreflightError where
  message : String
  deriving DecidableEq, Repr

/-- A character inside a literal. Those outside ASCII count as printable. -/
def reprChar (quote c : Char) : List Char :=
  let backslash := Char.ofNat 92
  if c = quote ∨ c = backslash then [backslash, c]
  else if c = Char.ofNat 10 then [backslash, 'n']
  else if c = Char.ofNat 13 then [backslash, 'r']
  else if c = Char.ofNat 9 then [backslash, 't']
  else if c.toNat < 32 ∨ c.toNat = 127 then
    [backslash, 'x', Nat.digitChar (c.toNat / 16), Nat.digitChar (c.toNat % 16)]
  else [c]

/-- A string as a literal, in double quotes only where it holds a single quote and no
double one. -/
def reprStr (s : String) : String :=
  let single := Char.ofNat 39
  let double := Char.ofNat 34
  let quote := if single ∈ s.toList ∧ double ∉ s.toList then double else single
  String.ofList (quote :: s.toList.flatMap (reprChar quote) ++ [quote])

/-- A list of strings as it prints. -/
def reprList (l : List String) : String := "[" ++ ", ".intercalate (l.map reprStr) ++ "]"

/-- What a rate below the minimum adds to a detail. -/
def mismatchAdvice (rate : ℚ) : String :=
  if minRowMatchRate ≤ rate then ""
  else "; check that the generator seed and insert-count match the values the table was " ++
    "loaded with"

/-! ### CockroachDB -/

/-- How often statements were executed, and how many rows they read. -/
structure Sample where
  count : ℚ
  rows : ℚ
  deriving DecidableEq, Repr

structure RowMatchProbe where
  table : String
  before : Option Sample := none
  deriving DecidableEq, Repr

def RowMatchProbe.start (probe : RowMatchProbe) (sample : Sample) : RowMatchProbe :=
  { probe with before := some sample }

/-- The counters the rate is taken from. -/
structure Evidence where
  executions : ℚ
  matched : ℚ
  window : String
  deriving DecidableEq, Repr

/-- The differences over the tier, or the last sample as it stands where the count did not
grow. -/
def evidence (before after : Sample) : Evidence :=
  if after.count - before.count ≤ 0 ∧ 0 < after.count then
    ⟨after.count, after.rows, "post-flush partial"⟩
  else ⟨after.count - before.count, after.rows - before.rows, "interval"⟩

/-- What a window other than the tier adds to a detail. -/
def windowNote (window : String) : String :=
  if window = "interval" then ""
  else "; measured over a partial window because the statistics view was flushed mid-tier"

def flushedDetail : String :=
  "the statement-statistics view was flushed after this tier ended, so its row-match evidence " ++
    "is unrecoverable"

/-- Asserts the rate for the tier just measured. The flag says that the write median cleared
the quorum floor. -/
def RowMatchProbe.finish (probe : RowMatchProbe) (after : Sample) (report : PreflightReport)
    (corroborated : Bool) : Except PreflightError (PreflightReport × Option ℚ) :=
  match probe.before with
  | none => .error ⟨"RowMatchProbe.finish called before start"⟩
  | some before =>
    let e := evidence before after
    if e.executions ≤ 0 ∧ 0 < before.count then
      if corroborated then
        .ok (report.add true (flushedDetail ++
          "; the tier's write median cleared the quorum floor, which is independent evidence " ++
          "that its updates touched rows (an update matching nothing commits an empty " ++
          "transaction and returns in ~3 ms). Reads are not independently corroborated")
          { table := probe.table, window := some "flushed; corroborated by quorum floor" }, none)
      else
        .ok (report.add false (flushedDetail ++
          " and no independent detector covers this tier, so it cannot be shown that the " ++
          "workload touched data. An unreplicated system has no quorum floor to corroborate " ++
          "against, which is why this is fatal rather than downgraded")
          { table := probe.table, window := some "flushed; uncorroborated" }, some 0)
    else if e.executions ≤ 0 then
      .ok (report.add false ("no statements against " ++ reprStr probe.table ++
        " were recorded during the window; the workload may not have run at all")
        { table := probe.table }, some 0)
    else
      let rate := e.matched / e.executions
      .ok (report.add (decide (minRowMatchRate ≤ rate))
        (fixed 0 e.matched ++ "/" ++ fixed 0 e.executions ++ " operations matched a row (rate " ++
          fixed 4 rate ++ ", minimum 0.99)" ++ windowNote e.window ++ mismatchAdvice rate)
        { table := probe.table
          executions := some e.executions
          matched := some e.matched
          matchRate := some (roundTo 6 rate)
          window := some e.window }, some rate)

/-! ### PostgreSQL -/

/-- Index scans, the rows they fetched, and sequential scans. -/
structure PgSample where
  scans : ℚ
  rows : ℚ
  seqScans : ℚ
  deriving DecidableEq, Repr

structure PostgresRowMatchProbe where
  table : String
  before : Option PgSample := none
  deriving DecidableEq, Repr

def PostgresRowMatchProbe.start (probe : PostgresRowMatchProbe) (sample : PgSample) :
    PostgresRowMatchProbe :=
  { probe with before := some sample }

def PostgresRowMatchProbe.finish (probe : PostgresRowMatchProbe) (after : PgSample)
    (report : PreflightReport) (corroborated : Bool) :
    Except PreflightError (PreflightReport × Option ℚ) :=
  match probe.before with
  | none => .error ⟨"PostgresRowMatchProbe.finish called before start"⟩
  | some before =>
    let scans := after.scans - before.scans
    let matched := after.rows - before.rows
    let seqScans := after.seqScans - before.seqScans
    if 0 < seqScans then
      .ok (report.add false (fixed 0 seqScans ++ " sequential scan(s) of " ++
        reprStr probe.table ++ " during the tier; this workload should address rows by " ++
        "primary key, so the operations measured are not the operations intended")
        { table := probe.table, sequentialScans := some seqScans }, some 0)
    else if scans < 0 ∨ matched < 0 then
      let detail := "pg_stat_user_tables counters for " ++ reprStr probe.table ++
        " went backwards during the tier, which means the server restarted or the " ++
        "statistics were reset"
      if corroborated then
        .ok (report.add true (detail ++ "; the write median cleared the quorum floor, which " ++
          "independently shows the operations reached data")
          { table := probe.table, window := some "reset; corroborated by quorum floor" }, none)
      else
        .ok (report.add false (detail ++ " and no independent detector covers this tier, so " ++
          "it cannot be shown that the workload touched data")
          { table := probe.table, window := some "reset; uncorroborated" }, some 0)
    else if scans ≤ 0 then
      .ok (report.add false ("no index scans of " ++ reprStr probe.table ++
        " were recorded during the window; the workload may not have run at all")
        { table := probe.table }, some 0)
    else
      let rate := matched / scans
      .ok (report.add (decide (minRowMatchRate ≤ rate))
        (fixed 0 matched ++ "/" ++ fixed 0 scans ++ " index scans fetched a row (rate " ++
          fixed 4 rate ++ ", minimum 0.99)" ++ mismatchAdvice rate)
        { table := probe.table
          executions := some scans
          matched := some matched
          matchRate := some (roundTo 6 rate)
          window := some "interval" }, some rate)

/-! ### What the flag decides -/

/-- The outcome is a check that passed, with no rate. -/
def Unmeasured (report : PreflightReport)
    (result : Except PreflightError (PreflightReport × Option ℚ)) : Prop :=
  ∃ check, check.passed = true ∧ result = .ok (⟨report.checks ++ [check]⟩, none)

lemma evidence_of_grown {before after : Sample} (h : before.count < after.count) :
    evidence before after =
      ⟨after.count - before.count, after.rows - before.rows, "interval"⟩ := by
  have hgrown : ¬ after.count - before.count ≤ 0 := not_le.mpr (sub_pos.mpr h)
  rw [evidence, if_neg fun hflush => hgrown hflush.1]

lemma evidence_of_not_grown {before after : Sample} (h : after.count ≤ before.count)
    (hpos : 0 < after.count) :
    evidence before after = ⟨after.count, after.rows, "post-flush partial"⟩ := by
  rw [evidence, if_pos ⟨sub_nonpos.mpr h, hpos⟩]

lemma evidence_executions_pos {before after : Sample} (h : 0 < after.count) :
    0 < (evidence before after).executions := by
  rcases lt_or_ge before.count after.count with hgrown | hle
  · rw [evidence_of_grown hgrown]
    exact sub_pos.mpr hgrown
  · rw [evidence_of_not_grown hle h]
    exact h

section Flag

variable {report report' : PreflightReport} {corroborated : Bool}

/-- A positive final count is a measurement, and the flag is not consulted. -/
lemma finish_of_count_pos (probe : RowMatchProbe) {after : Sample} (h : 0 < after.count) :
    probe.finish after report true = probe.finish after report false := by
  unfold RowMatchProbe.finish
  cases probe.before with
  | none => rfl
  | some before =>
    have hpos : ¬ (evidence before after).executions ≤ 0 :=
      not_le.mpr (evidence_executions_pos h)
    simp only [hpos, false_and, if_false]

lemma finish_eq_none (probe : RowMatchProbe) {after : Sample}
    (h : probe.finish after report corroborated = .ok (report', none)) :
    corroborated = true ∧ Unmeasured report (.ok (report', none)) := by
  unfold RowMatchProbe.finish at h
  cases hb : probe.before with
  | none =>
    rw [hb] at h
    cases h
  | some before =>
    rw [hb] at h
    dsimp only at h
    split_ifs at h with hgone hflag hnone
    · obtain rfl := (Prod.mk.inj (Except.ok.inj h)).1
      exact ⟨hflag, _, rfl, rfl⟩
    · cases h
    · cases h
    · cases h

/-- A sequential scan is a finding, and counters that never went back are a measurement. -/
lemma pgFinish_of_measured {probe : PostgresRowMatchProbe} {before after : PgSample}
    (hb : probe.before = some before)
    (h : 0 < after.seqScans - before.seqScans ∨
      before.scans ≤ after.scans ∧ before.rows ≤ after.rows) :
    probe.finish after report true = probe.finish after report false := by
  unfold PostgresRowMatchProbe.finish
  rw [hb]
  dsimp only
  rcases h with hseq | ⟨hscans, hrows⟩
  · rw [if_pos hseq, if_pos hseq]
  · have hback : ¬ (after.scans - before.scans < 0 ∨ after.rows - before.rows < 0) := by
      rintro (hlt | hlt) <;> linarith
    simp only [hback, if_false]

lemma pgFinish_eq_none (probe : PostgresRowMatchProbe) {after : PgSample}
    (h : probe.finish after report corroborated = .ok (report', none)) :
    corroborated = true ∧ Unmeasured report (.ok (report', none)) := by
  unfold PostgresRowMatchProbe.finish at h
  cases hb : probe.before with
  | none =>
    rw [hb] at h
    cases h
  | some before =>
    rw [hb] at h
    dsimp only at h
    split_ifs at h with hseq hback hflag hnone
    · cases h
    · obtain rfl := (Prod.mk.inj (Except.ok.inj h)).1
      exact ⟨hflag, _, rfl, rfl⟩
    · cases h
    · cases h
    · cases h

end Flag

/-- **Corroboration never overrides a measurement.** Where the counters measured the tier the
flag changes nothing, and without it no rate is left out. -/
theorem corroboration_never_overrides (report : PreflightReport) :
    (∀ (probe : RowMatchProbe) (before after : Sample), 0 < after.count →
      (probe.start before).finish after report true =
        (probe.start before).finish after report false) ∧
    (∀ (probe : PostgresRowMatchProbe) (before after : PgSample),
      0 < after.seqScans - before.seqScans ∨
        before.scans ≤ after.scans ∧ before.rows ≤ after.rows →
      (probe.start before).finish after report true =
        (probe.start before).finish after report false) ∧
    (∀ (probe : RowMatchProbe) (before after : Sample) (corroborated : Bool)
      (report' : PreflightReport),
      (probe.start before).finish after report corroborated = .ok (report', none) →
      corroborated = true ∧ Unmeasured report (.ok (report', none))) ∧
    ∀ (probe : PostgresRowMatchProbe) (before after : PgSample) (corroborated : Bool)
      (report' : PreflightReport),
      (probe.start before).finish after report corroborated = .ok (report', none) →
      corroborated = true ∧ Unmeasured report (.ok (report', none)) := by
  refine ⟨fun probe before after h => ?_, fun probe before after h => ?_,
    fun probe before after corroborated report' h => ?_,
    fun probe before after corroborated report' h => ?_⟩
  · exact finish_of_count_pos _ h
  · exact pgFinish_of_measured rfl h
  · exact finish_eq_none _ h
  · exact pgFinish_eq_none _ h

/-- A seed that matches no row is not rescued by the flag. -/
theorem mismatch_not_rescued :
    (RowMatchProbe.start ⟨"usertable", none⟩ ⟨0, 0⟩).finish ⟨10000, 0⟩ ⟨[]⟩ true =
      (RowMatchProbe.start ⟨"usertable", none⟩ ⟨0, 0⟩).finish ⟨10000, 0⟩ ⟨[]⟩ false :=
  (corroboration_never_overrides ⟨[]⟩).1 _ _ _ (by norm_num)

end CrdbLab.RowMatch
