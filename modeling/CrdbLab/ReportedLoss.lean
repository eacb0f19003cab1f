import CrdbLab.AuditWriter

/-!
What `collect` reports as lost, over every interleaving of the writer thread, the database
and the harness thread.

The table is read first and the acknowledged set later. When the join has expired the
writer is still running, so a write may commit and be recorded as acknowledged between the
two; its row was not in the snapshot, and it is reported as lost although it is in the
table. Runs without such a step report no loss, and runs with one always do.
-/

namespace CrdbLab.ReportedLoss

open CrdbLab.Lib.Runs CrdbLab.AuditWriter

/-- The verdict of `collect` is exact: no violation, and nothing listed as lost that was
not acknowledged or is in the table. -/
def ReportsExactly (s : State) (r : AuditResult) : Prop :=
  r.rpoViolations = 0 ∧ ∀ n ∈ r.lost, n ∈ s.acknowledged ∧ n ∉ s.table

/-- The action records an acknowledgement after the snapshot was taken and before `lost`
is evaluated, for a row the snapshot does not hold. -/
def LateAck (s : State) (a : Action) : Prop :=
  a = .writer .add ∧ s.pc = .settled .ack ∧
    match s.main with
    | .collecting present field _ => field.lostPending = true ∧ s.seq ∉ present
    | _ => False

/-- Acknowledged writes are committed, including the one about to be recorded. -/
structure Recorded (s : State) : Prop where
  settled : s.pc = .settled .ack → s.seq ∈ s.table
  acknowledged : s.acknowledged ⊆ s.table

lemma recorded_init : Recorded init where
  settled := by simp [init]
  acknowledged := by simp [init]

/-- **Step lemma**: the table keeps holding every acknowledged write. -/
theorem recorded_step {s : State} {a : Action} {t : State} (h : step s a = some t)
    (hs : Recorded s) : Recorded t := by
  obtain ⟨he, rfl⟩ := guarded_eq_some.mp h
  cases a with
  | writer a =>
    refine ⟨?_, ?_⟩
    · intro hpc
      have hmem : (writerEffect s a).seq ∈ s.table := writerEffect_settled he hpc
      simpa [effect] using hmem
    · simp only [effect, writerEffect_acknowledged, writerEffect_table]
      split
      · next hadd => exact Finset.insert_subset (hs.settled hadd.2) hs.acknowledged
      · exact hs.acknowledged
  | commit n =>
    exact ⟨fun hpc => Finset.mem_insert_of_mem (hs.settled hpc),
      hs.acknowledged.trans (Finset.subset_insert _ _)⟩
  | harness a =>
    obtain ⟨hpc, hseq, hack, htable⟩ := harnessEffect_frame s a
    refine ⟨?_, ?_⟩
    · simp only [effect, hpc, hseq, htable]
      exact hs.settled
    · simp only [effect, hack, htable]
      exact hs.acknowledged

/-- The harness has its snapshot. -/
def Collected : Main → Prop
  | .collecting _ _ _ | .done _ => True
  | _ => False

/-- No loss is reported so far: `lost` is empty, or will be if it is evaluated now. -/
def LostFree (acknowledged : Finset ℕ) : Main → Prop
  | .collecting present field r =>
    if field.lostPending then acknowledged ⊆ present else r.lost = []
  | .done r => r.lost = []
  | _ => True

lemma sort_eq_nil_iff (s : Finset ℕ) : s.sort (· ≤ ·) = [] ↔ s = ∅ := by
  rw [← List.length_eq_zero_iff, Finset.length_sort, Finset.card_eq_zero]

/-- Reading one more argument decides nothing new about the loss. -/
lemma lostFree_readField (s : State) (present : Finset ℕ) (r : AuditResult) (field : Field) :
    LostFree s.acknowledged (readField s present r field) ↔
      LostFree s.acknowledged (.collecting present field r) := by
  cases field <;>
    simp [readField, LostFree, Field.lostPending, sort_eq_nil_iff, Finset.sdiff_eq_empty_iff_subset]

lemma collected_readField (s : State) (present : Finset ℕ) (r : AuditResult) (field : Field) :
    Collected (readField s present r field) := by
  cases field <;> trivial

lemma not_lateAck_of_ne {s : State} {a : Action} (h : a ≠ .writer .add) : ¬ LateAck s a :=
  fun hlate => h hlate.1

/-- **Step lemma**: once the snapshot is taken, a step keeps the verdict free of losses
exactly when it is not a late acknowledgement. -/
theorem lostFree_step {s : State} {a : Action} {t : State} (h : step s a = some t)
    (hc : Collected s.main) :
    Collected t.main ∧
      (LostFree t.acknowledged t.main ↔ LostFree s.acknowledged s.main ∧ ¬ LateAck s a) := by
  obtain ⟨he, rfl⟩ := guarded_eq_some.mp h
  cases a with
  | writer a =>
    simp only [effect, writerEffect_main, writerEffect_acknowledged]
    refine ⟨hc, ?_⟩
    by_cases hadd : a = .add ∧ s.pc = .settled .ack
    · rw [if_pos hadd]
      rcases hm : s.main with _ | _ | _ | ⟨present, field, r⟩ | r
      case collecting =>
        by_cases hp : field.lostPending = true
        · simp [LateAck, LostFree, hm, hp, hadd.1, hadd.2, Finset.insert_subset_iff, and_comm]
        · simp [LateAck, LostFree, hm, hp]
      all_goals simp [LateAck, LostFree, hm]
    · have hlate : ¬ LateAck s (.writer a) := fun hl => hadd ⟨by simpa using hl.1, hl.2.1⟩
      simp [if_neg hadd, hlate]
  | commit n => exact ⟨hc, by simp [effect, not_lateAck_of_ne]⟩
  | harness a =>
    obtain ⟨-, -, hack, -⟩ := harnessEffect_frame s a
    simp only [effect, hack]
    have hlate : ¬ LateAck s (.harness a) := not_lateAck_of_ne (by simp)
    rcases harnessEffect_main he with ⟨hm, -⟩ | ⟨hm, -⟩ | ⟨hm, -⟩ | ⟨present, field, r, hm, ht⟩
    case inr.inr.inr =>
      rw [ht, hm]
      refine ⟨collected_readField s present r field, ?_⟩
      simp only [lostFree_readField, hlate, not_false_iff, and_true]
    all_goals exact absurd hc (by simp [hm, Collected])

/-- **Step lemma**: until the snapshot is taken nothing is reported, and the snapshot holds
every write acknowledged by then. -/
theorem lostFree_of_not_collected {s : State} {a : Action} {t : State} (h : step s a = some t)
    (hs : Recorded s) (hc : ¬ Collected s.main) :
    ¬ LateAck s a ∧ LostFree t.acknowledged t.main := by
  have hlate : ¬ LateAck s a := by
    rintro ⟨-, -, hl⟩
    rcases hm : s.main with _ | _ | _ | ⟨present, field, r⟩ | r <;> simp_all [Collected]
  refine ⟨hlate, ?_⟩
  have hfree : ∀ m, ¬ Collected m → ∀ acknowledged, LostFree acknowledged m := by
    intro m hm acknowledged
    cases m <;> simp_all [Collected, LostFree]
  obtain ⟨he, rfl⟩ := guarded_eq_some.mp h
  cases a with
  | writer a => exact hfree _ (by simpa [effect] using hc) _
  | commit n => exact hfree _ hc _
  | harness a =>
    obtain ⟨-, -, hack, -⟩ := harnessEffect_frame s a
    simp only [effect]
    rcases harnessEffect_main he with ⟨-, ht⟩ | ⟨-, ht, -⟩ | ⟨-, ht⟩ | ⟨_, _, _, hm, -⟩
    · exact hfree _ (by simp [ht, Collected]) _
    · exact hfree _ (by simp [ht, Collected]) _
    · rw [ht, hack]
      simpa [LostFree, Field.lostPending] using hs.acknowledged
    · exact absurd (by rw [hm]; trivial) hc

/-- Over a whole run, the reported loss is empty exactly when no acknowledgement was late. -/
theorem lost_eq_nil_iff {as : List Action} {s : State} {r : AuditResult}
    (h : run step init as = some s) (hr : s.main = .done r) :
    r.lost = [] ↔ Along step (fun s a => ¬ LateAck s a) init as := by
  have hfinal : LostFree s.acknowledged s.main ↔ r.lost = [] := by rw [hr]; rfl
  rw [← hfinal]
  refine ⟨fun hfree => ?_, fun halong => ?_⟩
  · -- a late acknowledgement leaves a loss behind that no later step removes
    by_contra hlate
    have hlost : Collected s.main ∧ ¬ LostFree s.acknowledged s.main := by
      apply reaches_of_not_along (fun s a t => recorded_step) ?_ ?_ h recorded_init hlate
      · intro s a t hst hs hla
        have hc : Collected s.main := by
          by_contra hc
          exact hla (lostFree_of_not_collected hst hs hc).1
        obtain ⟨ht, hiff⟩ := lostFree_step hst hc
        exact ⟨ht, fun hl => hla (hiff.mp hl).2⟩
      · intro s a t hst ⟨hc, hl⟩
        obtain ⟨ht, hiff⟩ := lostFree_step hst hc
        exact ⟨ht, fun hl' => hl (hiff.mp hl').1⟩
    exact hlost.2 hfree
  · have hinv : Recorded s ∧ LostFree s.acknowledged s.main := by
      refine run_preserves_along (I := fun s => Recorded s ∧ LostFree s.acknowledged s.main)
        ?_ h halong ⟨recorded_init, trivial⟩
      intro s a t hst hla ⟨hs, hl⟩
      refine ⟨recorded_step hst hs, ?_⟩
      by_cases hc : Collected s.main
      · exact (lostFree_step hst hc).2.mpr ⟨hl, hla⟩
      · exact (lostFree_of_not_collected hst hs hc).2
    exact hinv.2

/-- A writer joined in time has ended before the harness leaves the block. -/
def EndedBeforeLeaving (s : State) : Prop :=
  s.main = .body ∨ s.main = .joining ∨ s.pc = .ended

lemma endedBeforeLeaving_step {s : State} {a : Action} {t : State} (h : step s a = some t)
    (hjoin : ∀ now, a ≠ .harness (.joinExpires now)) (hs : EndedBeforeLeaving s) :
    EndedBeforeLeaving t := by
  obtain ⟨he, rfl⟩ := guarded_eq_some.mp h
  cases a with
  | writer a =>
    simp only [EndedBeforeLeaving, effect, writerEffect_main]
    rcases hs with hm | hm | hm
    · exact .inl hm
    · exact .inr (.inl hm)
    · exact absurd hm (writerEnabled_ne_ended he)
  | commit n => exact hs
  | harness a =>
    simp only [EndedBeforeLeaving, effect, (harnessEffect_frame s a).1]
    rcases harnessEffect_main he with ⟨-, ht⟩ | ⟨-, -, hend⟩ | ⟨hm, -⟩ | ⟨_, _, _, hm, -⟩
    · exact .inr (.inl ht)
    · rcases hend with hend | ⟨now, rfl⟩
      · exact .inr (.inr hend)
      · exact absurd rfl (hjoin now)
    all_goals
      rw [EndedBeforeLeaving, hm] at hs
      exact .inr (.inr (by simpa using hs))

/-- **A writer that ended within the join's time-out**: no loss is reported, whatever the
order of the other steps. -/
theorem lost_eq_nil_of_joined {as : List Action} {s : State} {r : AuditResult}
    (h : run step init as = some s) (hr : s.main = .done r)
    (hjoin : Along step (fun _ a => ∀ now, a ≠ .harness (.joinExpires now)) init as) :
    r.lost = [] := by
  rw [lost_eq_nil_iff h hr]
  refine along_of_invariant (fun s a t => endedBeforeLeaving_step) ?_ hjoin (.inl rfl)
  rintro s a hs ⟨-, hpc, hm⟩
  rcases hs with hs | hs | hs
  · simp [hs] at hm
  · simp [hs] at hm
  · simp [hs] at hpc

/-- **The reported loss is exact** in precisely the runs in which no acknowledgement is
recorded between the snapshot and `lost` for a row the snapshot lacks. -/
theorem reportsExactly_iff {as : List Action} {s : State} {r : AuditResult}
    (h : run step init as = some s) (hr : s.main = .done r) :
    ReportsExactly s r ↔ Along step (fun s a => ¬ LateAck s a) init as := by
  rw [← lost_eq_nil_iff h hr, ReportsExactly, AuditResult.rpoViolations,
    List.length_eq_zero_iff, and_iff_left_iff_imp]
  intro hnil
  simp [hnil]

/-- One write, joined and collected. -/
def joinedRun : List Action :=
  [.writer .check, .writer (.take 0 false), .writer .connect, .writer .send, .commit 1,
    .writer .answer, .writer .add, .writer (.append 1), .writer (.stamp "T1"),
    .harness .setStop, .writer .wake, .writer .check, .harness (.joinReturns 2),
    .harness .select] ++ List.replicate 8 (.harness .read)

theorem joinedRun_reportsExactly :
    ∃ s r, run step init joinedRun = some s ∧ s.main = .done r ∧
      (ReportsExactly s r ↔ Along step (fun s a => ¬ LateAck s a) init joinedRun) := by
  have hmain : (run step init joinedRun).map State.main =
      some (.done ⟨1, 0, 0, 1, [], 0, some "T1", some "T1"⟩) := by decide +kernel
  obtain ⟨s, hs, hr⟩ := Option.map_eq_some_iff.mp hmain
  exact ⟨s, _, hs, hr, reportsExactly_iff hs hr⟩

/-- The write is still in flight when the join expires, commits after the snapshot, and is
acknowledged before `lost` is evaluated. -/
def lateRun : List Action :=
  [.writer .check, .writer (.take 0 false), .writer .connect, .writer .send, .harness .setStop,
    .harness (.joinExpires 10), .harness .select, .commit 1, .writer .answer,
    .writer .add] ++ List.replicate 8 (.harness .read)

theorem lateRun_not_exact :
    ∃ s r, run step init lateRun = some s ∧ s.main = .done r ∧ ¬ ReportsExactly s r ∧
      r.lost = [1] ∧ 1 ∈ s.table := by
  have hmain : (run step init lateRun).map (fun s => (s.main, s.table)) =
      some (.done ⟨1, 0, 0, 0, [1], 0, none, none⟩, {1}) := by decide +kernel
  obtain ⟨s, hs, hr⟩ := Option.map_eq_some_iff.mp hmain
  obtain ⟨hm, ht⟩ := Prod.mk.inj hr
  refine ⟨s, _, hs, hm, ?_, rfl, by simp [ht]⟩
  simp [ReportsExactly, AuditResult.rpoViolations]

end CrdbLab.ReportedLoss
