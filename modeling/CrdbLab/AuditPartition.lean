import CrdbLab.AuditWriter
import Mathlib.Order.Interval.Finset.Nat

/-!
What the audit writer has recorded between two attempts.

A number is taken for one attempt and never again. At each place in the loop it is known up to
which number the three sets and the log reach; an attempt under way is in none of them yet.
-/

namespace CrdbLab.AuditPartition

open CrdbLab.Lib.Runs CrdbLab.AuditWriter

/-! ### Numbers sorted into sets -/

section Split

variable {ι : Type*}

/-- The sets divide the numbers from one to `n` among them. -/
structure Split (set : ι → Finset ℕ) (n : ℕ) : Prop where
  disjoint : ∀ i j, i ≠ j → Disjoint (set i) (set j)
  union : ∀ k, (∃ i, k ∈ set i) ↔ 1 ≤ k ∧ k ≤ n

variable {set : ι → Finset ℕ} {n : ℕ}

lemma Split.notMem (h : Split set n) {k : ℕ} (hk : n < k) (i : ι) : k ∉ set i := by
  intro hmem
  have := (h.union k).mp ⟨i, hmem⟩
  omega

/-- The next number goes into one of the sets. -/
lemma Split.next [DecidableEq ι] (h : Split set n) (i : ι) :
    Split (Function.update set i (insert (n + 1) (set i))) (n + 1) := by
  have hnew : ∀ j, n + 1 ∉ set j := h.notMem (Nat.lt_succ_self n)
  have hmem : ∀ j k, k ∈ Function.update set i (insert (n + 1) (set i)) j ↔
      j = i ∧ k = n + 1 ∨ k ∈ set j := by
    intro j k
    by_cases hj : j = i
    · subst hj
      simp
    · simp [hj]
  constructor
  · intro j j' hj
    rw [Finset.disjoint_left]
    intro k hk hk'
    rcases (hmem j k).mp hk with ⟨rfl, rfl⟩ | hk
    · rcases (hmem j' _).mp hk' with ⟨rfl, -⟩ | hk'
      · exact hj rfl
      · exact hnew j' hk'
    · rcases (hmem j' k).mp hk' with ⟨-, rfl⟩ | hk'
      · exact hnew j hk
      · exact Finset.disjoint_left.mp (h.disjoint j j' hj) hk hk'
  · intro k
    constructor
    · rintro ⟨j, hj⟩
      rcases (hmem j k).mp hj with ⟨-, rfl⟩ | hj
      · omega
      · have := (h.union k).mp ⟨j, hj⟩
        omega
    · rintro ⟨h1, hk⟩
      rcases Nat.lt_or_ge n k with hlt | hle
      · exact ⟨i, (hmem i k).mpr (Or.inl ⟨rfl, by omega⟩)⟩
      · obtain ⟨j, hj⟩ := (h.union k).mpr ⟨h1, hle⟩
        exact ⟨j, (hmem j k).mpr (Or.inr hj)⟩

end Split

/-! ### The invariant -/

def setOf (s : State) : Outcome → Finset ℕ
  | .ack => s.acknowledged
  | .ambiguous => s.ambiguous
  | .refused => s.refused

/-- The attempt has no outcome recorded yet. -/
def underWay : Pc → Bool
  | .connecting | .sending | .awaiting | .settled _ => true
  | _ => false

/-- The attempt is not in the log yet. -/
def unlogged : Pc → Bool
  | .added _ => true
  | pc => underWay pc

/-- The last number with an outcome. -/
def recorded (s : State) : ℕ := if underWay s.pc then s.seq - 1 else s.seq

/-- The last number in the log. -/
def logged (s : State) : ℕ := if unlogged s.pc then s.seq - 1 else s.seq

/-- What the loop keeps at every statement. -/
structure Kept (s : State) : Prop where
  positive : unlogged s.pc = true → 0 < s.seq
  split : Split (setOf s) (recorded s)
  log : s.attempts.map (fun a => a.2.1) = List.range' 1 (logged s)
  outcome : ∀ a ∈ s.attempts, a.2.1 ∈ setOf s a.2.2
  added : ∀ o, s.pc = .added o → s.seq ∈ setOf s o
  sent : ∀ n ∈ s.sent, n ≤ s.seq
  unsent : s.pc = .connecting ∨ s.pc = .sending → s.seq ∉ s.sent

lemma kept_init : Kept init where
  positive h := by cases h
  split := by
    refine ⟨fun o o' _ => by cases o <;> simp [setOf, init], fun n => ?_⟩
    constructor
    · rintro ⟨o, ho⟩
      cases o <;> simp [setOf, init] at ho
    · rintro ⟨h1, h0⟩
      have : n ≤ 0 := h0
      omega
  log := rfl
  outcome := by simp [init]
  added o h := by cases h
  sent := by simp [init]
  unsent h := by rcases h with h | h <;> cases h

/-- The part of the state that the writer's record consists of. -/
def record (s : State) : Pc × ℕ × Finset ℕ × Finset ℕ × Finset ℕ × List (ℚ × ℕ × Outcome) ×
    Finset ℕ :=
  (s.pc, s.seq, s.acknowledged, s.ambiguous, s.refused, s.attempts, s.sent)

lemma Kept.of_record {s t : State} (h : record t = record s) (hs : Kept s) : Kept t := by
  cases s
  cases t
  simp only [record, Prod.mk.injEq] at h
  obtain ⟨rfl, rfl, rfl, rfl, rfl, rfl, rfl⟩ := h
  exact ⟨hs.positive, hs.split, hs.log, hs.outcome, hs.added, hs.sent, hs.unsent⟩

lemma record_harnessEffect (s : State) (a : HarnessAction) :
    record (harnessEffect s a) = record s := by
  cases a with
  | read =>
    simp only [harnessEffect]
    split <;> rfl
  | _ => rfl

/-- A move of the loop that records nothing. -/
lemma Kept.move {s t : State} (hs : Kept s) (hrecord : record t = record { s with pc := t.pc })
    (hunder : underWay t.pc = underWay s.pc) (hun : unlogged t.pc = unlogged s.pc)
    (hadded : ∀ o, t.pc ≠ .added o)
    (hsend : t.pc = .connecting ∨ t.pc = .sending → s.pc = .connecting ∨ s.pc = .sending) :
    Kept t := by
  have hrec : recorded { s with pc := t.pc } = recorded s := by
    simp only [recorded, hunder]
  have hlog : logged { s with pc := t.pc } = logged s := by
    simp only [logged, hun]
  refine Kept.of_record hrecord ⟨fun h => hs.positive (hun ▸ h), ?_, ?_, hs.outcome,
    fun o h => absurd h (hadded o), hs.sent, fun h => hs.unsent (hsend h)⟩
  · rw [hrec]
    exact hs.split
  · rw [hlog]
    exact hs.log

/-- The outcome of an attempt puts its number into one of the sets. -/
lemma Kept.add {s : State} (hs : Kept s) {o : Outcome} (hpc : s.pc = .settled o) :
    Kept { addOutcome s o with pc := .added o } := by
  have hpos : 0 < s.seq := hs.positive (by rw [hpc]; rfl)
  have hrec : recorded s = s.seq - 1 := by rw [recorded, hpc]; rfl
  have hlog : logged s = s.seq - 1 := by rw [logged, hpc]; rfl
  have hset : setOf { addOutcome s o with pc := .added o } =
      Function.update (setOf s) o (insert s.seq (setOf s o)) := by
    funext o'
    cases o <;> cases o' <;> rfl
  have hsplit : Split (setOf { addOutcome s o with pc := .added o }) s.seq := by
    have hnext := hs.split.next o
    rwa [hrec, Nat.sub_add_cancel hpos, ← hset] at hnext
  have hkeep : ∀ o' n, n ∈ setOf s o' → n ∈ setOf { addOutcome s o with pc := .added o } o' := by
    intro o' n hn
    rw [hset]
    by_cases ho : o' = o
    · subst ho
      simp [hn]
    · simp [ho, hn]
  have hseq : (addOutcome s o).seq = s.seq := by cases o <;> rfl
  have hattempts : (addOutcome s o).attempts = s.attempts := by cases o <;> rfl
  have hsent : (addOutcome s o).sent = s.sent := by cases o <;> rfl
  refine ⟨fun _ => by simpa [hseq] using hpos, ?_, ?_, ?_, ?_, ?_, ?_⟩
  · have hafter : recorded { addOutcome s o with pc := .added o } = s.seq := hseq
    rw [hafter]
    exact hsplit
  · have hafter : logged { addOutcome s o with pc := .added o } = s.seq - 1 := by
      rw [logged, hseq]
      rfl
    rw [hafter, ← hlog, ← hs.log, hattempts]
  · intro a ha
    rw [hattempts] at ha
    exact hkeep _ _ (hs.outcome a ha)
  · rintro o' ho'
    cases ho'
    rw [hset, hseq]
    simp
  · intro n hn
    rw [hsent] at hn
    rw [hseq]
    exact hs.sent n hn
  · rintro (h | h) <;> cases h

/-- The log gains the number of the attempt with the outcome just recorded. -/
lemma Kept.append {s : State} (hs : Kept s) {o : Outcome} (hpc : s.pc = .added o) (now : ℚ) :
    Kept { s with attempts := s.attempts ++ [(now, s.seq, o)], pc := .logged o } := by
  have hpos : 0 < s.seq := hs.positive (by rw [hpc]; rfl)
  have hlog : logged s = s.seq - 1 := by rw [logged, hpc]; rfl
  have hrec : recorded s = s.seq := by rw [recorded, hpc]; rfl
  refine ⟨?_, ?_, ?_, ?_, ?_, hs.sent, ?_⟩
  · intro h
    cases h
  · have := hs.split
    rwa [hrec] at this
  · have hsplit : List.range' 1 s.seq = List.range' 1 (s.seq - 1) ++ [s.seq] := by
      obtain ⟨m, hm⟩ := Nat.exists_eq_succ_of_ne_zero hpos.ne'
      rw [hm, Nat.succ_sub_one, Nat.succ_eq_add_one, List.range'_concat, Nat.one_mul, Nat.add_comm]
    have hmap := hs.log
    rw [hlog] at hmap
    change (s.attempts ++ [(now, s.seq, o)]).map (fun a => a.2.1) = List.range' 1 s.seq
    rw [List.map_append, hmap, hsplit]
    rfl
  · intro a ha
    rcases List.mem_append.mp ha with ha | ha
    · exact hs.outcome a ha
    · rw [List.mem_singleton.mp ha]
      exact hs.added o hpc
  · intro o' h
    cases h
  · rintro (h | h) <;> cases h

/-- A number is taken that no set, no log entry and no INSERT has. -/
lemma Kept.take {s : State} (hs : Kept s) (hpc : s.pc = .taking) (now : ℚ) (closed : Bool) :
    Kept (writerEffect s (.take now closed)) := by
  have hrec : recorded s = s.seq := by rw [recorded, hpc]; rfl
  have hlog : logged s = s.seq := by rw [logged, hpc]; rfl
  have hopen : (writerEffect s (.take now closed)).pc = .connecting ∨
      (writerEffect s (.take now closed)).pc = .sending := by
    simp only [writerEffect]
    split
    · exact Or.inl rfl
    · exact Or.inr rfl
  have hunder : underWay (writerEffect s (.take now closed)).pc = true := by
    rcases hopen with h | h <;> rw [h] <;> rfl
  have hun : unlogged (writerEffect s (.take now closed)).pc = true := by
    rcases hopen with h | h <;> rw [h] <;> rfl
  refine ⟨fun _ => Nat.succ_pos _, ?_, ?_, hs.outcome, ?_, ?_, ?_⟩
  · have hafter : recorded (writerEffect s (.take now closed)) = s.seq := by
      rw [recorded, if_pos hunder]
      rfl
    rw [hafter, ← hrec]
    exact hs.split
  · have hafter : logged (writerEffect s (.take now closed)) = s.seq := by
      rw [logged, if_pos hun]
      rfl
    rw [hafter, ← hlog]
    exact hs.log
  · intro o h
    rcases hopen with h' | h' <;> rw [h'] at h <;> cases h
  · intro n hn
    exact Nat.le_succ_of_le (hs.sent n hn)
  · intro _ hmem
    exact absurd (hs.sent _ hmem) (Nat.not_succ_le_self s.seq)

/-- The INSERT of the number just taken. -/
lemma Kept.send {s : State} (hs : Kept s) (hpc : s.pc = .sending) :
    Kept { s with sent := insert s.seq s.sent, pc := .awaiting } := by
  have hrec : recorded s = s.seq - 1 := by rw [recorded, hpc]; rfl
  have hlog : logged s = s.seq - 1 := by rw [logged, hpc]; rfl
  refine ⟨fun _ => hs.positive (by rw [hpc]; rfl), ?_, ?_, hs.outcome, ?_, ?_, ?_⟩
  · have := hs.split
    rwa [hrec] at this
  · have := hs.log
    rwa [hlog] at this
  · intro o h
    cases h
  · intro n hn
    rcases Finset.mem_insert.mp hn with rfl | hn
    · exact le_refl _
    · exact hs.sent n hn
  · rintro (h | h) <;> cases h

/-- **Step lemma**: every step of any party keeps the record in order. -/
theorem kept_step {s : State} {a : Action} {t : State} (h : step s a = some t) (hs : Kept s) :
    Kept t := by
  obtain ⟨he, rfl⟩ := guarded_eq_some.mp h
  cases a with
  | commit n =>
    have hrecord : record (effect s (.commit n)) = record s := rfl
    exact hs.of_record hrecord
  | harness a => exact hs.of_record (record_harnessEffect s a)
  | writer a =>
    cases a with
    | check =>
      have hpc : s.pc = .checking := of_decide_eq_true he
      simp only [effect, writerEffect]
      split
      · exact hs.move rfl (by rw [hpc]; rfl) (by rw [hpc]; rfl) (by simp) (by simp)
      · exact hs.move rfl (by rw [hpc]; rfl) (by rw [hpc]; rfl) (by simp) (by simp)
    | take now closed => exact hs.take (of_decide_eq_true he) now closed
    | connect =>
      have hpc : s.pc = .connecting := of_decide_eq_true he
      exact hs.move rfl (by rw [hpc]; rfl) (by rw [hpc]; rfl) (by simp [effect, writerEffect])
        fun _ => Or.inl hpc
    | send => exact hs.send (of_decide_eq_true he)
    | answer =>
      have hpc : s.pc = .awaiting := of_decide_eq_true (Bool.and_eq_true_iff.mp he).1
      exact hs.move rfl (by rw [hpc]; rfl) (by rw [hpc]; rfl) (by simp [effect, writerEffect])
        (by simp [effect, writerEffect])
    | fail exception =>
      have hpc : underWay s.pc = true ∧ unlogged s.pc = true := by
        simp only [enabled, writerEnabled, Bool.or_eq_true, decide_eq_true_eq] at he
        rcases he with (h | h) | h <;> rw [h] <;> exact ⟨rfl, rfl⟩
      exact hs.move rfl hpc.1.symm hpc.2.symm (by simp [effect, writerEffect])
        (by simp [effect, writerEffect])
    | add =>
      cases hpc : s.pc with
      | settled o =>
        simp only [effect, writerEffect, hpc]
        exact hs.add hpc
      | _ => simp [enabled, writerEnabled, hpc] at he
    | append now =>
      cases hpc : s.pc with
      | added o =>
        simp only [effect, writerEffect, hpc]
        exact hs.append hpc now
      | _ => simp [enabled, writerEnabled, hpc] at he
    | stamp utcnow =>
      have hpc : s.pc = .logged .ack := of_decide_eq_true he
      exact hs.move rfl (by rw [hpc]; rfl) (by rw [hpc]; rfl) (by simp [effect, writerEffect])
        (by simp [effect, writerEffect])
    | close =>
      have hpc : underWay s.pc = false ∧ unlogged s.pc = false := by
        simp only [enabled, writerEnabled, Bool.or_eq_true, decide_eq_true_eq] at he
        rcases he with h | h <;> rw [h] <;> exact ⟨rfl, rfl⟩
      exact hs.move rfl hpc.1.symm hpc.2.symm (by simp [effect, writerEffect])
        (by simp [effect, writerEffect])
    | wake =>
      have hpc : s.pc = .waiting := of_decide_eq_true he
      exact hs.move rfl (by rw [hpc]; rfl) (by rw [hpc]; rfl) (by simp [effect, writerEffect])
        (by simp [effect, writerEffect])

/-! ### The times of the log -/

/-- The clock readings of the writer, in the order it takes them. -/
def reading : Action → Option ℚ
  | .writer (.take now _) => some now
  | .writer (.append now) => some now
  | _ => none

/-- A step logs at most one attempt, at the reading it takes. -/
lemma attempts_step {s : State} {a : Action} {t : State} (h : step s a = some t) :
    ∃ l, t.attempts = s.attempts ++ l ∧ (l.map Prod.fst).Sublist (reading a).toList := by
  obtain ⟨he, rfl⟩ := guarded_eq_some.mp h
  cases a with
  | commit n => exact ⟨[], (List.append_nil _).symm, List.nil_sublist _⟩
  | harness a =>
    refine ⟨[], ?_, List.nil_sublist _⟩
    have hrecord := record_harnessEffect s a
    simp only [record, Prod.mk.injEq] at hrecord
    rw [List.append_nil]
    exact hrecord.2.2.2.2.2.1
  | writer a =>
    cases a with
    | check =>
      refine ⟨[], ?_, List.nil_sublist _⟩
      simp only [effect, writerEffect, List.append_nil]
      split <;> rfl
    | add =>
      refine ⟨[], ?_, List.nil_sublist _⟩
      simp only [effect, writerEffect, List.append_nil]
      split
      · next o _ => cases o <;> rfl
      · rfl
    | append now =>
      cases hpc : s.pc with
      | added o =>
        refine ⟨[(now, s.seq, o)], ?_, List.Sublist.refl _⟩
        simp only [effect, writerEffect, hpc]
      | _ => simp [enabled, writerEnabled, hpc] at he
    | _ => exact ⟨[], (List.append_nil _).symm, List.nil_sublist _⟩

lemma attempts_run {s u : State} {as : List Action} (hrun : run step s as = some u) :
    ∃ l, u.attempts = s.attempts ++ l ∧ (l.map Prod.fst).Sublist (as.filterMap reading) := by
  induction as generalizing s with
  | nil =>
    rw [run_nil, Option.some.injEq] at hrun
    exact ⟨[], by rw [hrun, List.append_nil], List.nil_sublist _⟩
  | cons a as ih =>
    obtain ⟨t, ht, hrest⟩ := run_cons.mp hrun
    obtain ⟨l, hl, hsub⟩ := attempts_step ht
    obtain ⟨l', hl', hsub'⟩ := ih hrest
    refine ⟨l ++ l', by rw [hl', hl, List.append_assoc], ?_⟩
    have hsplit : (a :: as).filterMap reading = (reading a).toList ++ as.filterMap reading := by
      cases h : reading a <;> simp [h]
    rw [List.map_append, hsplit]
    exact hsub.append hsub'

/-- The writer is not inside an attempt. -/
def Between (s : State) : Prop :=
  s.pc = .checking ∨ s.pc = .taking ∨ s.pc = .waiting ∨ s.pc = .ended

structure Partitioned (s : State) : Prop where
  ack_ambiguous : Disjoint s.acknowledged s.ambiguous
  ack_refused : Disjoint s.acknowledged s.refused
  ambiguous_refused : Disjoint s.ambiguous s.refused
  union : s.acknowledged ∪ s.ambiguous ∪ s.refused = Finset.Icc 1 s.seq
  numbers : s.attempts.map (fun a => a.2.1) = List.range' 1 s.seq
  outcomes : ∀ a ∈ s.attempts, a.2.1 ∈ setOf s a.2.2
  times : (s.attempts.map Prod.fst).Pairwise (· ≤ ·)

lemma partitioned_of_kept {s : State} (hs : Kept s) (hpc : Between s)
    (htimes : (s.attempts.map Prod.fst).Pairwise (· ≤ ·)) : Partitioned s := by
  have hrec : recorded s = s.seq := by
    rcases hpc with h | h | h | h <;> rw [recorded, h] <;> rfl
  have hlog : logged s = s.seq := by
    rcases hpc with h | h | h | h <;> rw [logged, h] <;> rfl
  refine ⟨hs.split.disjoint .ack .ambiguous (by decide),
    hs.split.disjoint .ack .refused (by decide),
    hs.split.disjoint .ambiguous .refused (by decide), ?_, hlog ▸ hs.log, hs.outcome, htimes⟩
  ext n
  rw [Finset.mem_Icc, ← hrec, ← hs.split.union n, Finset.mem_union, Finset.mem_union]
  constructor
  · rintro ((h | h) | h)
    · exact ⟨.ack, h⟩
    · exact ⟨.ambiguous, h⟩
    · exact ⟨.refused, h⟩
  · rintro ⟨o, h⟩
    cases o with
    | ack => exact Or.inl (Or.inl h)
    | ambiguous => exact Or.inl (Or.inr h)
    | refused => exact Or.inr h

/-- A number is sent when no INSERT had it and no set has it. -/
def Fresh (s : State) (a : Action) : Prop :=
  a = .writer .send → s.seq ∉ s.sent ∧ ∀ o, s.seq ∉ setOf s o

lemma fresh_of_kept {s t : State} {a : Action} (h : step s a = some t) (hs : Kept s) :
    Fresh s a := by
  rintro rfl
  obtain ⟨he, -⟩ := guarded_eq_some.mp h
  have hpc : s.pc = .sending := of_decide_eq_true he
  have hpos : 0 < s.seq := hs.positive (by rw [hpc]; rfl)
  have hrec : recorded s = s.seq - 1 := by rw [recorded, hpc]; rfl
  exact ⟨hs.unsent (Or.inr hpc), hs.split.notMem (by omega)⟩

/-- In every run of the three parties each number is sent while it is new, and whenever the
writer is between two attempts the sets split the numbers taken and the log lists each once. -/
theorem audit_partition {as : List Action} {s : State} (hrun : run step init as = some s)
    (hclock : (as.filterMap reading).Pairwise (· ≤ ·)) :
    Along step Fresh init as ∧ (Between s → Partitioned s) := by
  have hstep : ∀ s a t, step s a = some t → Kept s → Kept t := fun _ _ _ => kept_step
  have hfresh : ∀ s a t, step s a = some t → Kept s → Fresh s a := fun _ _ _ => fresh_of_kept
  refine ⟨along_of_run hstep hfresh hrun kept_init, fun hpc => ?_⟩
  have hkept : Kept s := run_preserves hstep hrun kept_init
  obtain ⟨l, hl, hsub⟩ := attempts_run hrun
  have htimes : (s.attempts.map Prod.fst).Pairwise (· ≤ ·) := by
    rw [hl]
    exact hclock.sublist hsub
  exact partitioned_of_kept hkept hpc htimes

/-- One acknowledged write, then one whose connection broke after the INSERT, and a refused
one. -/
def threeAttempts : List Action :=
  [.writer .check, .writer (.take 0 false), .writer .connect, .writer .send, .commit 1,
    .writer .answer, .writer .add, .writer (.append 1), .writer (.stamp "10:00"), .writer .wake,
    .writer .check, .writer (.take 1 false), .writer .send, .commit 2,
    .writer (.fail "OperationalError"), .writer .add, .writer (.append 6), .writer .close,
    .writer .wake, .writer .check, .writer (.take 7 false), .writer .connect,
    .writer (.fail "UndefinedTable"), .writer .add, .writer (.append 8), .writer .close]

theorem threeAttempts_partitioned :
    ∃ s, run step init threeAttempts = some s ∧ s.acknowledged = {1} ∧ s.ambiguous = {2} ∧
      s.refused = {3} ∧ Along step Fresh init threeAttempts ∧ Partitioned s := by
  have hrun : ∃ s, run step init threeAttempts = some s ∧ s.acknowledged = {1} ∧
      s.ambiguous = {2} ∧ s.refused = {3} ∧ s.pc = .waiting := by decide +kernel
  obtain ⟨s, hs, hack, hamb, href, hpc⟩ := hrun
  obtain ⟨hfresh, hpart⟩ := audit_partition hs (by decide)
  exact ⟨s, hs, hack, hamb, href, hfresh, hpart (Or.inr (Or.inr (Or.inl hpc)))⟩

end CrdbLab.AuditPartition
