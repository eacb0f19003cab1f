import CrdbLab.AgentReader
import CrdbLab.ProbeSummary

/-!
The probe as an agent on the client node, and the lines it prints.

A worker puts its attempt on the list under one lock and prints it under another, so that
other threads run between the two. The main thread prints the start line before there are any
threads, and the stop line after it has waited for them, but for no longer than a while.
-/

namespace CrdbLab.AgentRun

open CrdbLab.Lib.Runs CrdbLab.Lib.Extended
open CrdbLab.RtoProbe CrdbLab.ProbeDispatch CrdbLab.ProbeRows CrdbLab.ProbeSummary
open CrdbLab.AgentReader (Json Fields agentResultKey)

structure AgentArgs where
  probe : Probe
  epochUtc : String
  table : String

/-! ### What is printed -/

def numberOrNull : Option ℚ → Json
  | some x => .float (.finite x)
  | none => .null

/-- How the resolution is to be read. -/
def note : String :=
  "resolution_s is the 95th percentile of the gap between served writes -- the tail, not the " ++
    "median, because the tail is what the probe might have been waiting through when the " ++
    "database recovered. It is bounded by the cost of a write divided by the worker count, " ++
    "not by dispatch_interval_s. Compare it with gap_p50_s: if they differ by orders of " ++
    "magnitude the pool was completing in bursts and the effective sampling is the coarser " ++
    "of the two"

def summaryFields (s : Summary) : Fields :=
  [("attempts", .int s.attempts),
    ("outcomes", .object (s.outcomes.entries.map fun e => (e.1, .int e.2))),
    ("dispatch_interval_s", .float (.finite s.dispatchIntervalS)),
    ("workers", .int s.workers),
    ("ticks", .int s.ticks),
    ("dispatch_saturation", .int s.dispatchSaturation),
    ("dispatch_saturation_pct", numberOrNull s.dispatchSaturationPct),
    ("ticks_spaced_out", .int s.ticksSpacedOut),
    ("achieved_rate_per_s", numberOrNull s.achievedRatePerS),
    ("served_rate_per_s", numberOrNull s.servedRatePerS),
    ("resolution_s", numberOrNull s.resolutionS),
    ("gap_p50_s", numberOrNull s.gapP50S),
    ("gap_max_s", numberOrNull s.gapMaxS),
    ("median_write_ms", numberOrNull s.medianWriteMs),
    ("span_s", .float (.finite s.spanS)),
    ("note", .string note)]

def rowFields (row : ProbeRow) : Fields :=
  [("ts_utc", .string row.tsUtc),
    ("seq_id", .int row.seqId),
    ("dispatch_offset_s", .float (.finite row.dispatchOffsetS)),
    ("complete_offset_s", .float (.finite row.completeOffsetS)),
    ("duration_ms", .float (.finite row.durationMs)),
    ("outcome", .string row.outcome),
    ("worker", .int row.worker),
    ("detail", .string row.detail)]

/-- A line behind the start line. -/
inductive Line
  | attempt (row : ProbeRow)
  | stop (error : Option String) (summary : Summary)
  deriving DecidableEq, Repr

variable (args : AgentArgs)

def startFields : Fields :=
  [(agentResultKey, .string "start"),
    ("epoch_utc", .string args.epochUtc),
    ("table", .string args.table),
    ("workers", .int args.probe.workers),
    ("interval_s", .float (.finite args.probe.intervalS))]

def stopFields (error : Option String) (summary : Summary) : Fields :=
  [(agentResultKey, .string "stop"),
    ("epoch_utc", .string args.epochUtc),
    ("error", (error.map Json.string).getD .null),
    ("summary", .object (summaryFields summary))]

def Line.fields : Line → Fields
  | .attempt row => rowFields row
  | .stop error summary => stopFields args error summary

/-! ### The agent -/

structure Agent (workers : ℕ) where
  probe : State workers := init workers
  unsent : Fin workers → Option ProbeAttempt := fun _ => none
  output : List Line := []
  finished : Bool := false

inductive Act (workers : ℕ) where
  | thread (a : Action workers)
  | emit (i : Fin workers)
  | finish (error : Option String)

/-- What a statement of the probe puts on the list of attempts. -/
def appended (s : State args.probe.workers) (a : Action args.probe.workers) :
    Option ProbeAttempt :=
  ((effect args.probe s a).attempts.drop s.attempts.length).head?

/-- The worker a statement is one of. -/
def workerOf {workers : ℕ} : Action workers → Option (Fin workers)
  | .worker i _ => some i
  | _ => none

/-- The summary at the moment. -/
def summaryOf (s : State args.probe.workers) : Summary :=
  summarise s.attempts
    { ticks := s.ticks
      saturated := s.dispatchSaturation
      spacedOut := s.ticksSpacedOut
      intervalS := args.probe.intervalS
      workers := args.probe.workers }

/-- A worker does nothing else before it has printed its attempt; the main thread stops the
threads before it prints the stop line. -/
def agentEnabled (s : Agent args.probe.workers) : Act args.probe.workers → Bool
  | .thread a =>
    enabled args.probe s.probe a && (workerOf a).all fun i => (s.unsent i).isNone
  | .emit i => (s.unsent i).isSome
  | .finish _ => s.probe.stop && !s.finished

def agentEffect (s : Agent args.probe.workers) : Act args.probe.workers → Agent args.probe.workers
  | .thread a =>
    { s with
      probe := effect args.probe s.probe a
      unsent :=
        match workerOf a, appended args s.probe a with
        | some i, some attempt => Function.update s.unsent i (some attempt)
        | _, _ => s.unsent }
  | .emit i =>
    { s with
      output := s.output ++ ((s.unsent i).map fun attempt => Line.attempt (toRow attempt)).toList
      unsent := Function.update s.unsent i none }
  | .finish error =>
    { s with output := s.output ++ [.stop error (summaryOf args s.probe)], finished := true }

abbrev agentStep :
    Agent args.probe.workers → Act args.probe.workers → Option (Agent args.probe.workers) :=
  guarded (agentEnabled args) (agentEffect args)

/-- Everything that is printed, in order. -/
def printed (s : Agent args.probe.workers) : List Fields :=
  startFields args :: s.output.map (Line.fields args)

/-! ### The threads of the agent are those of the probe -/

/-- The statements of the probe's threads. -/
def threadsOf {workers : ℕ} (as : List (Act workers)) : List (Action workers) :=
  as.filterMap fun
    | .thread a => some a
    | _ => none

variable {args} {s : Agent args.probe.workers}

/-- **The agent refines the probe**: without its printing a run of the agent is a run of the
probe. -/
lemma probe_of_agent {as : List (Act args.probe.workers)} {t : Agent args.probe.workers}
    (hrun : run (agentStep args) s as = some t) :
    run (step args.probe) s.probe (threadsOf as) = some t.probe := by
  induction as generalizing s with
  | nil =>
    rw [run_nil, Option.some.injEq] at hrun
    rw [hrun]
    rfl
  | cons act as ih =>
    obtain ⟨u, hu, hrest⟩ := run_cons.mp hrun
    obtain ⟨henabled, rfl⟩ := guarded_eq_some.mp hu
    cases act with
    | thread a =>
      refine run_cons.mpr ⟨_, guarded_eq_some.mpr ⟨?_, rfl⟩, ih hrest⟩
      exact (Bool.and_eq_true_iff.mp henabled).1
    | emit i =>
      have hrun' := ih hrest
      exact hrun'
    | finish error =>
      have hrun' := ih hrest
      exact hrun'

/-! ### What is on the list and what is printed -/

/-- Only a worker adds to the list, and one attempt at a time. -/
lemma attempts_effect (s : State args.probe.workers) (a : Action args.probe.workers) :
    (effect args.probe s a).attempts = s.attempts ++ (appended args s a).toList ∧
      (workerOf a = none → appended args s a = none) := by
  have hsame : ∀ t : State args.probe.workers, t.attempts = s.attempts →
      effect args.probe s a = t →
      (effect args.probe s a).attempts = s.attempts ++ (appended args s a).toList ∧
        (workerOf a = none → appended args s a = none) := by
    intro t ht heff
    have hnone : appended args s a = none := by simp [appended, heff, ht]
    simp [hnone, heff, ht]
  cases a with
  | setStop => exact hsame { s with stop := true } rfl rfl
  | dispatcher r =>
    refine hsame _ ?_ rfl
    change (dispatcherEffect args.probe s r).attempts = s.attempts
    unfold dispatcherEffect
    cases s.dispatcher
    all_goals dsimp only
    all_goals try split_ifs
    all_goals rfl
  | worker i r =>
    by_cases hnoted : ∃ job outcome detail completed, s.pool i = .noted job outcome detail completed
    · obtain ⟨job, outcome, detail, completed, hw⟩ := hnoted
      simp [appended, effect, workerEffect, hw, workerOf]
    · refine hsame _ ?_ rfl
      change (workerEffect args.probe s i r).attempts = s.attempts
      unfold workerEffect
      cases hw : s.pool i with
      | noted job outcome detail completed => exact absurd ⟨_, _, _, _, hw⟩ hnoted
      | getting => cases s.queue <;> rfl
      | attempted job outcome detail completed =>
        dsimp only
        split_ifs
        · rfl
        · rfl
      | _ => rfl

/-- The rows among the lines. -/
def rowsOf (lines : List Line) : List ProbeRow :=
  lines.filterMap fun
    | .attempt row => some row
    | .stop _ _ => none

/-- The stop lines among the lines. -/
def stopsOf (lines : List Line) : List (Option String × Summary) :=
  lines.filterMap fun
    | .attempt _ => none
    | .stop error summary => some (error, summary)

/-- The row of an attempt that is not printed yet. -/
def unsentRow (attempt : Option ProbeAttempt) : Multiset ProbeRow :=
  (attempt.map toRow).elim 0 fun row => {row}

/-- The invariant of every interleaving. -/
structure Printing (s : Agent args.probe.workers) : Prop where
  rows : (rowsOf s.output : Multiset ProbeRow) + tally unsentRow s.unsent = s.probe.attempts.map toRow
  once : (stopsOf s.output).length = if s.finished then 1 else 0

lemma printing_init : Printing ({} : Agent args.probe.workers) where
  rows := by
    have hpool : tally unsentRow (fun _ : Fin args.probe.workers => none) = 0 :=
      tally_eq_zero fun _ => rfl
    rw [hpool]
    rfl
  once := rfl

/-- **Step lemma**: an attempt is on its way until it is printed, and printed once. -/
lemma printing_step {act : Act args.probe.workers} {t : Agent args.probe.workers}
    (h : agentStep args s act = some t) (hs : Printing s) : Printing t := by
  obtain ⟨henabled, rfl⟩ := guarded_eq_some.mp h
  obtain ⟨hrows, honce⟩ := hs
  cases act with
  | thread a =>
    refine ⟨?_, honce⟩
    obtain ⟨hattempts, hworker⟩ := attempts_effect s.probe a
    change (rowsOf s.output : Multiset ProbeRow) + _ = _
    simp only [agentEffect, hattempts, List.map_append]
    cases happ : appended args s.probe a with
    | none => cases workerOf a <;> simpa using hrows
    | some attempt =>
      cases hw : workerOf a with
      | none => rw [hworker hw] at happ; cases happ
      | some i =>
        have hfree : s.unsent i = none := by
          have hall := (Bool.and_eq_true_iff.mp henabled).2
          simpa [hw] using hall
        have htaken := tally_update unsentRow s.unsent i (some attempt)
        have hempty : unsentRow none = 0 := rfl
        rw [hfree, hempty, add_zero] at htaken
        dsimp only
        rw [htaken, ← add_assoc, hrows]
        simp [unsentRow, ← Multiset.coe_add]
  | emit i =>
    obtain ⟨attempt, hattempt⟩ := Option.isSome_iff_exists.mp henabled
    refine ⟨?_, ?_⟩
    · have hgiven := tally_update unsentRow s.unsent i none
      have hempty : unsentRow none = 0 := rfl
      rw [hattempt, hempty, add_zero] at hgiven
      have hsent : rowsOf (agentEffect args s (.emit i)).output =
          rowsOf s.output ++ [toRow attempt] := by
        simp [rowsOf, agentEffect, hattempt]
      rw [hsent]
      change _ + tally unsentRow (Function.update s.unsent i none) = _
      refine Eq.trans ?_ hrows
      rw [← hgiven, ← Multiset.coe_add, add_assoc, add_comm _ (unsentRow _)]
      rfl
    · simpa [stopsOf, agentEffect, hattempt] using honce
  | finish error =>
    have hopen : s.finished = false := by simpa using (Bool.and_eq_true_iff.mp henabled).2
    refine ⟨?_, ?_⟩
    · simpa [rowsOf, agentEffect] using hrows
    · rw [hopen] at honce
      simp only [stopsOf] at honce
      simp [stopsOf, agentEffect, honce]

lemma printing_of_run {as : List (Act args.probe.workers)}
    (hrun : run (agentStep args) {} as = some s) : Printing s :=
  run_preserves (fun _ _ _ => printing_step) hrun printing_init

end CrdbLab.AgentRun
