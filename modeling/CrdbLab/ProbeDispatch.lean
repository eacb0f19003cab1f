import CrdbLab.Lib.Runs
import CrdbLab.Lib.OrderStat
import CrdbLab.RtoProbe
import Mathlib.Data.List.DropRight
import Mathlib.Algebra.Order.Interval.Finset.SuccPred
import Mathlib.Data.Int.Interval
import Mathlib.Data.Int.SuccPred

/-!
The availability probe at work: one dispatcher, a pool of workers, and what they share.

The dispatcher ticks, takes a permit, numbers a job and puts it on the queue; a worker takes
the job off, attempts the write, records it and gives the permit back. Each step of a thread
is one statement another thread can observe, with what it reads of its surroundings: the
clock, the outcome of the write, the time stamp.
-/

namespace CrdbLab.ProbeDispatch

open CrdbLab.Lib.Runs CrdbLab.Lib.OrderStat CrdbLab.RtoProbe

/-- The arguments `__init__` accepts. -/
structure Probe where
  workers : ℕ
  intervalS : ℚ
  epochMonotonic : ℚ
  workers_pos : 1 ≤ workers
  interval_pos : 0 < intervalS

structure Job where
  seq : ℤ
  dispatched : ℚ
  deriving DecidableEq, Repr

/-- Where the dispatcher stands in its loop. -/
inductive Dispatcher where
  | looping
  | deadline
  | waiting
  | counting
  | testing (now : ℚ)
  | spacedOut
  | acquiring (now : ℚ)
  | saturated
  | holding (now : ℚ)
  | putting (job : Job)
  | full
  | releasing
  | returned
  deriving DecidableEq, Repr

/-- Where a worker stands in its loop. -/
inductive Worker where
  | checking
  | getting
  | attempting (job : Job)
  | attempted (job : Job) (outcome detail : String) (completed : ℚ)
  | noted (job : Job) (outcome detail : String) (completed : ℚ)
  | recorded
  | exited
  deriving DecidableEq, Repr

structure State (workers : ℕ) where
  stop : Bool := false
  queue : List Job := []
  idle : ℕ := workers
  seq : ℤ := 0
  attempts : List ProbeAttempt := []
  dispatchSaturation : ℤ := 0
  ticksSpacedOut : ℤ := 0
  ticks : ℤ := 0
  recentLatencies : List ℚ := []
  medianLatency : Option ℚ := none
  tick : ℤ := 0
  lastDispatch : ℚ := 0
  dispatcher : Dispatcher := .looping
  pool : Fin workers → Worker := fun _ => .checking

/-- The threads have been started. -/
def init (workers : ℕ) : State workers := {}

/-- What a statement reads of its surroundings. -/
structure Reading where
  now : ℚ := 0
  later : ℚ := 0
  signaled : Bool := false
  outcome : String := "ok"
  detail : String := ""
  tsUtc : String := ""
  deriving DecidableEq, Repr

inductive Action (workers : ℕ) where
  | setStop
  | dispatcher (r : Reading)
  | worker (i : Fin workers) (r : Reading)
  deriving DecidableEq, Repr

/-- How many of the latest latencies the median is taken over. -/
def latencyWindow : ℕ := 32

/-- `int(x)`, which cuts towards zero. -/
def truncate (x : ℚ) : ℤ := if 0 ≤ x then ⌊x⌋ else ⌈x⌉

variable (probe : Probe)

def spacing (medianLatency : Option ℚ) : ℚ :=
  match medianLatency with
  | none => probe.intervalS
  | some latency => max probe.intervalS (latency / probe.workers)

variable {workers : ℕ}

def nextSeq (s : State workers) : State workers := { s with seq := s.seq + 1 }

def noteLatency (s : State workers) (seconds : ℚ) : State workers :=
  let recent := (s.recentLatencies ++ [seconds]).rtake latencyWindow
  { s with
    recentLatencies := recent
    medianLatency := (sorted recent)[recent.length / 2]? }

/-- One statement of `_dispatcher`. -/
def dispatcherEffect (s : State probe.workers) (r : Reading) : State probe.workers :=
  match s.dispatcher with
  | .looping =>
    if s.stop then { s with dispatcher := .returned }
    else { s with tick := s.tick + 1, dispatcher := .deadline }
  | .deadline =>
    let delay := probe.epochMonotonic + s.tick * probe.intervalS - r.now
    if 0 < delay then { s with dispatcher := .waiting }
    else if probe.intervalS < -delay then
      { s with
        tick := truncate ((r.later - probe.epochMonotonic) / probe.intervalS)
        dispatcher := .looping }
    else { s with dispatcher := .counting }
  | .waiting =>
    if r.signaled && s.stop then { s with dispatcher := .returned }
    else { s with dispatcher := .counting }
  | .counting => { s with ticks := s.ticks + 1, dispatcher := .testing r.now }
  | .testing now =>
    if now - s.lastDispatch < spacing probe s.medianLatency then { s with dispatcher := .spacedOut }
    else { s with dispatcher := .acquiring now }
  | .spacedOut => { s with ticksSpacedOut := s.ticksSpacedOut + 1, dispatcher := .looping }
  | .acquiring now =>
    if 0 < s.idle then { s with idle := s.idle - 1, dispatcher := .holding now }
    else { s with dispatcher := .saturated }
  | .saturated =>
    { s with dispatchSaturation := s.dispatchSaturation + 1, dispatcher := .looping }
  | .holding now => { nextSeq s with dispatcher := .putting ⟨s.seq + 1, now⟩ }
  | .putting job =>
    if s.queue.length < probe.workers then
      { s with queue := s.queue ++ [job], lastDispatch := job.dispatched, dispatcher := .looping }
    else { s with dispatcher := .full }
  | .full => { s with dispatchSaturation := s.dispatchSaturation + 1, dispatcher := .releasing }
  | .releasing => { s with idle := s.idle + 1, dispatcher := .looping }
  | .returned => s

/-- One statement of `_worker`, for the worker `i`. -/
def workerEffect (s : State probe.workers) (i : Fin probe.workers) (r : Reading) :
    State probe.workers :=
  match s.pool i with
  | .checking =>
    { s with pool := Function.update s.pool i (if s.stop then .exited else .getting) }
  | .getting =>
    match s.queue with
    | [] => { s with pool := Function.update s.pool i .checking }
    | job :: rest =>
      { s with queue := rest, pool := Function.update s.pool i (.attempting job) }
  | .attempting job =>
    { s with pool := Function.update s.pool i (.attempted job r.outcome r.detail r.now) }
  | .attempted job outcome detail completed =>
    let s := if outcome = "ok" then noteLatency s (completed - job.dispatched) else s
    { s with pool := Function.update s.pool i (.noted job outcome detail completed) }
  | .noted job outcome detail completed =>
    { s with
      attempts := s.attempts ++
        [{ seqId := job.seq
           dispatchOffsetS := job.dispatched - probe.epochMonotonic
           completeOffsetS := completed - probe.epochMonotonic
           outcome := outcome
           worker := i
           detail := detail
           tsUtc := r.tsUtc }]
      pool := Function.update s.pool i .recorded }
  | .recorded => { s with idle := s.idle + 1, pool := Function.update s.pool i .checking }
  | .exited => s

/-- A thread that has ended takes no further step. -/
def enabled (s : State probe.workers) : Action probe.workers → Bool
  | .setStop => true
  | .dispatcher _ => s.dispatcher ≠ .returned
  | .worker i _ => s.pool i ≠ .exited

def effect (s : State probe.workers) : Action probe.workers → State probe.workers
  | .setStop => { s with stop := true }
  | .dispatcher r => dispatcherEffect probe s r
  | .worker i r => workerEffect probe s i r

abbrev step : State probe.workers → Action probe.workers → Option (State probe.workers) :=
  guarded (enabled probe) (effect probe)

/-! ### Who holds what -/

/-- The permits in the dispatcher's hand. -/
def Dispatcher.permits : Dispatcher → ℕ
  | .holding _ | .putting _ | .full | .releasing => 1
  | _ => 0

/-- A job that is numbered and not yet on the queue. -/
def Dispatcher.inHand : Dispatcher → Multiset ℤ
  | .putting job => {job.seq}
  | _ => 0

/-- A tick that is counted and not yet decided. -/
def Dispatcher.undecided : Dispatcher → ℤ
  | .testing _ | .spacedOut | .acquiring _ | .saturated | .holding _ => 1
  | _ => 0

/-- The jobs a worker holds, a permit with each. -/
def Worker.permits : Worker → ℕ
  | .attempting _ | .attempted .. | .noted .. | .recorded => 1
  | _ => 0

/-- The number of a job the worker took and has not recorded yet. -/
def Worker.inHand : Worker → Multiset ℤ
  | .attempting job | .attempted job .. | .noted job .. => {job.seq}
  | _ => 0

def recorded (s : State workers) : Multiset ℤ := s.attempts.map ProbeAttempt.seqId

/-- The numbers on the queue and in somebody's hand. -/
def pending (s : State workers) : Multiset ℤ :=
  ↑(s.queue.map Job.seq) + tally Worker.inHand s.pool + s.dispatcher.inHand

/-- The invariant of every interleaving. -/
structure Accounted (s : State workers) : Prop where
  permits : s.idle + s.queue.length + tally Worker.permits s.pool + s.dispatcher.permits = workers
  numbers : recorded s + pending s = (Finset.Icc 1 s.seq).val
  seq_nonneg : 0 ≤ s.seq
  ticks : s.ticks =
    s.seq + s.ticksSpacedOut + s.dispatchSaturation + s.dispatcher.undecided
  notFull : s.dispatcher ≠ .full ∧ s.dispatcher ≠ .releasing

lemma accounted_init : Accounted (init workers) where
  permits := by
    have hpool : tally Worker.permits (init workers).pool = 0 := tally_eq_zero fun _ => rfl
    rw [hpool]
    rfl
  numbers := by
    have hpool : tally Worker.inHand (init workers).pool = 0 := tally_eq_zero fun _ => rfl
    rw [pending, hpool]
    rfl
  seq_nonneg := le_refl _
  ticks := rfl
  notFull := ⟨nofun, nofun⟩

lemma Icc_succ_val {n : ℤ} (h : 0 ≤ n) :
    (Finset.Icc 1 (n + 1)).val = (Finset.Icc 1 n).val + {n + 1} := by
  have hinsert : insert (n + 1) (Finset.Icc 1 n) = Finset.Icc 1 (n + 1) :=
    Finset.insert_Icc_right_eq_Icc_add_one (by omega)
  rw [← hinsert, Finset.insert_val_of_notMem (by simp), ← Multiset.singleton_add, add_comm]

variable {probe : Probe} {s : State probe.workers}

/-- **Step lemma of the dispatcher**: what it hands on it no longer holds. -/
theorem accounted_dispatcher (hs : Accounted s) (r : Reading) :
    Accounted (dispatcherEffect probe s r) := by
  obtain ⟨hpermits, hnumbers, hseq, hticks, hnotFull⟩ := hs
  rcases hd : s.dispatcher with _ | _ | _ | _ | now | _ | now | _ | now | job | _ | _ | _
  all_goals
    simp only [hd, pending, Dispatcher.permits, Dispatcher.inHand, Dispatcher.undecided]
      at hpermits hnumbers hticks hnotFull
    simp only [dispatcherEffect, hd]
  case acquiring =>
    split
    · next hfree =>
      refine ⟨?_, hnumbers, hseq, hticks, by simp⟩
      simp only [Dispatcher.permits]
      omega
    · exact ⟨hpermits, hnumbers, hseq, hticks, by simp⟩
  case counting => exact ⟨hpermits, hnumbers, hseq, by simp [Dispatcher.undecided, hticks], by simp⟩
  case spacedOut =>
    refine ⟨hpermits, hnumbers, hseq, ?_, by simp⟩
    simp only [Dispatcher.undecided]
    omega
  case saturated =>
    refine ⟨hpermits, hnumbers, hseq, ?_, by simp⟩
    simp only [Dispatcher.undecided]
    omega
  case holding =>
    refine ⟨hpermits, ?_, by simpa [nextSeq] using hseq.trans (by omega), ?_, by simp⟩
    · simp only [nextSeq, pending, Dispatcher.inHand, Icc_succ_val hseq, ← hnumbers]
      simp [recorded, add_assoc]
    · simp only [nextSeq, Dispatcher.undecided]
      omega
  case putting =>
    -- a permit in hand leaves room on the queue
    have hroom : s.queue.length < probe.workers := by omega
    rw [if_pos hroom]
    refine ⟨?_, ?_, hseq, hticks, by simp⟩
    · simp only [Dispatcher.permits, List.length_append, List.length_singleton]
      omega
    · rw [← hnumbers]
      simp only [recorded, pending, Dispatcher.inHand, List.map_append, List.map_cons, List.map_nil,
        ← Multiset.coe_add, Multiset.coe_singleton, add_zero]
      ac_rfl
  case full => exact absurd rfl hnotFull.1
  case releasing => exact absurd rfl hnotFull.2
  case returned => exact ⟨by rw [hd]; exact hpermits, by rw [pending, hd]; exact hnumbers, hseq,
    by rw [hd]; exact hticks, by simp [hd]⟩
  all_goals
    repeat' split
  all_goals exact ⟨hpermits, hnumbers, hseq, hticks, by simp⟩

/-- A worker that moves on with what it holds. -/
lemma Accounted.move {s : State workers} (hs : Accounted s) {i : Fin workers} {w : Worker}
    (hpermits : w.permits = (s.pool i).permits) (hhand : w.inHand = (s.pool i).inHand) :
    Accounted { s with pool := Function.update s.pool i w } := by
  refine ⟨?_, ?_, hs.seq_nonneg, hs.ticks, hs.notFull⟩
  · simpa only [tally_update_same hpermits] using hs.permits
  · simpa only [recorded, pending, tally_update_same hhand] using hs.numbers

lemma Accounted.noteLatency {s : State workers} (hs : Accounted s) (seconds : ℚ) :
    Accounted (noteLatency s seconds) :=
  ⟨hs.permits, hs.numbers, hs.seq_nonneg, hs.ticks, hs.notFull⟩

/-- **Step lemma of a worker**: what it takes off the queue it holds until it is recorded. -/
theorem accounted_worker (hs : Accounted s) (i : Fin probe.workers) (r : Reading) :
    Accounted (workerEffect probe s i r) := by
  have hpermits := hs.permits
  have hnumbers := hs.numbers
  rcases hw : s.pool i with _ | _ | job | ⟨job, outcome, detail, completed⟩ |
    ⟨job, outcome, detail, completed⟩ | _ | _
  all_goals simp only [workerEffect, hw]
  case checking =>
    split
    · exact hs.move (by rw [hw]; rfl) (by rw [hw]; rfl)
    · exact hs.move (by rw [hw]; rfl) (by rw [hw]; rfl)
  case getting =>
    split
    · exact hs.move (by rw [hw]; rfl) (by rw [hw]; rfl)
    · next job rest hqueue =>
      have htaken := tally_update Worker.permits s.pool i (.attempting job)
      have hhand := tally_update Worker.inHand s.pool i (.attempting job)
      simp only [hw, Worker.permits, Worker.inHand, add_zero] at htaken hhand
      refine ⟨?_, ?_, hs.seq_nonneg, hs.ticks, hs.notFull⟩
      · simp only [hqueue, List.length_cons] at hpermits
        simp only [htaken]
        omega
      · rw [← hnumbers]
        simp only [recorded, pending, hqueue, hhand, List.map_cons, ← Multiset.cons_coe,
          ← Multiset.singleton_add]
        ac_rfl
  case attempting => exact hs.move (by rw [hw]; rfl) (by rw [hw]; rfl)
  case attempted =>
    split
    · exact (hs.noteLatency _).move (by simp only [noteLatency, hw]; rfl)
        (by simp only [noteLatency, hw]; rfl)
    · exact hs.move (by rw [hw]; rfl) (by rw [hw]; rfl)
  case noted =>
    have hkept : tally Worker.permits (Function.update s.pool i .recorded) =
        tally Worker.permits s.pool := tally_update_same (by rw [hw]; rfl)
    have hgiven := tally_update Worker.inHand s.pool i .recorded
    simp only [hw, Worker.inHand, add_zero] at hgiven
    refine ⟨by simpa only [hkept] using hpermits, ?_, hs.seq_nonneg, hs.ticks, hs.notFull⟩
    rw [← hnumbers]
    simp only [recorded, pending, ← hgiven, List.map_append, List.map_cons, List.map_nil,
      ← Multiset.coe_add, Multiset.coe_singleton]
    ac_rfl
  case recorded =>
    have hgiven := tally_update Worker.permits s.pool i .checking
    simp only [hw, Worker.permits, add_zero] at hgiven
    have hkept : tally Worker.inHand (Function.update s.pool i .checking) =
        tally Worker.inHand s.pool := tally_update_same (by rw [hw]; rfl)
    refine ⟨?_, by simpa only [recorded, pending, hkept] using hnumbers, hs.seq_nonneg, hs.ticks,
      hs.notFull⟩
    rw [← hgiven] at hpermits
    simp only
    omega
  case exited => exact hs

/-- **Step lemma**: every step of every thread keeps the accounts. -/
theorem accounted_step {a : Action probe.workers} {t : State probe.workers}
    (h : step probe s a = some t) (hs : Accounted s) : Accounted t := by
  obtain ⟨-, rfl⟩ := guarded_eq_some.mp h
  cases a with
  | setStop => exact ⟨hs.permits, hs.numbers, hs.seq_nonneg, hs.ticks, hs.notFull⟩
  | dispatcher r => exact accounted_dispatcher hs r
  | worker i r => exact accounted_worker hs i r

/-- What the permits, the queue and the counters say at any moment. -/
structure Conserved (probe : Probe) (s : State probe.workers) : Prop where
  permits : s.idle + s.queue.length + tally Worker.permits s.pool + s.dispatcher.permits =
    probe.workers
  queue_le : s.queue.length ≤ probe.workers
  room : ∀ job, s.dispatcher = .putting job → s.queue.length < probe.workers
  neverFull : s.dispatcher ≠ .full
  distinct : (recorded s + pending s).Nodup
  numbers : ∀ n, n ∈ recorded s + pending s ↔ 1 ≤ n ∧ n ≤ s.seq
  recordedOnce : (s.attempts.map ProbeAttempt.seqId).Nodup
  dispatched : ∀ n, 1 ≤ n → n ≤ s.seq → n ∈ s.attempts.map ProbeAttempt.seqId ∨ n ∈ pending s
  ticks : s.dispatcher = .looping →
    s.ticks = s.seq + s.ticksSpacedOut + s.dispatchSaturation

lemma Accounted.conserved (hs : Accounted s) : Conserved probe s := by
  have hpermits := hs.permits
  have hnodup : (recorded s + pending s).Nodup := by
    rw [hs.numbers]
    exact (Finset.Icc 1 s.seq).nodup
  have hmem : ∀ n, n ∈ recorded s + pending s ↔ 1 ≤ n ∧ n ≤ s.seq := by
    intro n
    rw [hs.numbers, Finset.mem_val, Finset.mem_Icc]
  refine ⟨hpermits, by omega, fun job hjob => ?_, hs.notFull.1, hnodup, hmem, ?_, ?_,
    fun hloop => ?_⟩
  · rw [hjob] at hpermits
    simp only [Dispatcher.permits] at hpermits
    omega
  · exact Multiset.coe_nodup.mp (Multiset.nodup_of_le (Multiset.le_add_right _ _) hnodup)
  · intro n hlo hhi
    exact Multiset.mem_add.mp ((hmem n).mpr ⟨hlo, hhi⟩)
  · have hticks := hs.ticks
    rw [hloop] at hticks
    simpa [Dispatcher.undecided] using hticks

/-- **The dispatch protocol**: over every interleaving of the dispatcher and the workers no
permit is lost, the queue is never full, and every number dispatched is in exactly one place. -/
theorem conserved_of_run {as : List (Action probe.workers)}
    (h : run (step probe) (init probe.workers) as = some s) : Conserved probe s :=
  (run_preserves (fun _ _ _ => accounted_step) h accounted_init).conserved

/-- Two workers, a tenth of a second apart. -/
def twoWorkers : Probe := ⟨2, 1 / 10, 0, by decide, by norm_num⟩

/-- One write recorded while the second is in the hands of the other worker. -/
def overlappingRun : List (Action 2) :=
  let dispatch (now : ℚ) : List (Action 2) := List.replicate 7 (.dispatcher { now := now })
  [.worker 0 {}, .worker 1 {}] ++ dispatch (1 / 10) ++ [.worker 0 {}] ++ dispatch (1 / 5) ++
    [.worker 1 {}, .worker 0 { now := 3 / 10 }, .worker 0 {}, .worker 0 {}]

theorem overlappingRun_conserved : ∃ s, run (step twoWorkers) (init 2) overlappingRun = some s ∧
    s.seq = 2 ∧ s.attempts.map ProbeAttempt.seqId = [1] ∧ Conserved twoWorkers s := by
  have hseq : (run (step twoWorkers) (init 2) overlappingRun).map
      (fun s => (s.seq, s.attempts.map ProbeAttempt.seqId)) = some (2, [1]) := by decide +kernel
  obtain ⟨s, hs, hr⟩ := Option.map_eq_some_iff.mp hseq
  obtain ⟨hseq, hattempts⟩ := Prod.mk.inj hr
  exact ⟨s, hs, hseq, hattempts, conserved_of_run hs⟩

end CrdbLab.ProbeDispatch
