import CrdbLab.AgentRun

/-!
What the agent prints, as the harness reads it.

The reader keeps every row that was printed, on the clock of the run, and ends with the counters
of the stop line if there was one. Once the workers have printed what they recorded, the harness
finds in it what the agent found.
-/

namespace CrdbLab.AgentDelivery

open CrdbLab.Lib.Runs CrdbLab.Lib.Extended CrdbLab.Lib.Numeral
open CrdbLab.Lib.Effects CrdbLab.Lib.Rounding CrdbLab.Lib.Dictionary CrdbLab.RtoProbe
open CrdbLab.ProbeDispatch
open CrdbLab.ProbeRows CrdbLab.ProbeSummary CrdbLab.AgentReader CrdbLab.AgentRun
open CrdbLab.RtoInvariance (shift relative withoutFlight relative_shift withoutFlight_of_perm)

variable (lib : Library) (dumps : Fields → String) (epochUtc : String)

/-! ### Lines -/

/-- The record is printed on one line, which reads back. -/
structure Carries (fields : Fields) : Prop where
  loads : lib.loads (dumps fields) = .ok (.object fields)
  stripped : strip isSpace (dumps fields).toList = (dumps fields).toList
  nonempty : dumps fields ≠ ""

def lineOf (fields : Fields) : String := dumps fields ++ "\n"

/-- Whether the reader does anything about a line. -/
def meaningful (line : String) : Bool :=
  match eventOf lib line with
  | .nothing => false
  | _ => true

/-- The lines that arrive: those that are printed, among others that are none of the agent's
and that the reader passes over. -/
def Heard (fields : List Fields) (heard : List String) : Prop :=
  heard.filter (meaningful lib) = fields.map (lineOf dumps)

variable {lib dumps}

lemma eventOf_lineOf {fields : Fields} (h : Carries lib dumps fields) :
    eventOf lib (lineOf dumps fields) =
      match field? fields agentResultKey with
      | some (.string "start") => .start fields
      | some (.string "stop") => .stop fields
      | _ => .attempt fields := by
  have hline : String.ofList (strip isSpace (lineOf dumps fields).toList) = dumps fields := by
    have hlist : (lineOf dumps fields).toList = (dumps fields).toList ++ [Char.ofNat 10] := by
      rw [lineOf, String.toList_append]
      rfl
    rw [hlist, strip_append_singleton (by decide), h.stripped, String.ofList_toList]
  unfold eventOf
  rw [hline]
  exact (if_neg h.nonempty).trans (h.loads ▸ rfl)

lemma meaningful_lineOf {fields : Fields} (h : Carries lib dumps fields) :
    meaningful lib (lineOf dumps fields) = true := by
  rw [meaningful, eventOf_lineOf h]
  split
  · next hnothing => split at hnothing <;> cases hnothing
  · rfl

/-- A line of another program's before the agent's. -/
lemma heard_cons {fields : List Fields} (hcarries : ∀ f ∈ fields, Carries lib dumps f)
    {line : String} (hline : meaningful lib line = false) :
    Heard lib dumps fields (line :: fields.map (lineOf dumps)) := by
  rw [Heard, List.filter_cons_of_neg (by simp [hline])]
  refine List.filter_eq_self.mpr fun text htext => ?_
  obtain ⟨f, hf, rfl⟩ := List.mem_map.mp htext
  exact meaningful_lineOf (hcarries f hf)

/-- What is no line of the agent's changes nothing. -/
lemma outcome_readStdout_filter (lines : List String) (r : Reader) :
    outcome (readStdout lib epochUtc (lines.filter (meaningful lib))) r =
      outcome (readStdout lib epochUtc lines) r := by
  induction lines generalizing r with
  | nil => rfl
  | cons line lines ih =>
    unfold readStdout at ih ⊢
    cases hm : meaningful lib line with
    | true =>
      rw [List.filter_cons_of_pos hm, forEach, forEach, outcome_bind, outcome_bind]
      rcases outcome (readLine lib epochUtc line) r with ⟨e | u, t⟩
      · rfl
      · exact ih t
    | false =>
      have hread : outcome (readLine lib epochUtc line) r = (.ok (), r) := by
        unfold meaningful at hm
        unfold readLine
        split at hm
        · next hevent => rw [hevent]; rfl
        · cases hm
      rw [List.filter_cons_of_neg (by simp [hm]), forEach, outcome_bind_ok hread]
      exact ih r

/-! ### The reader -/

/-- An attempt in the reader's hands. -/
def onWire (a : ProbeAttempt) : RemoteAttempt where
  seqId := a.seqId
  dispatchOffsetS := .finite a.dispatchOffsetS
  completeOffsetS := .finite a.completeOffsetS
  outcome := a.outcome
  worker := a.worker
  detail := a.detail
  tsUtc := a.tsUtc

/-- The attempts of the rows, on the clock of the run. -/
def rebased (skew : ℚ) (rows : List ProbeRow) : List ProbeAttempt :=
  (attemptsFromRows rows).map (shift skew)

/-- What a line does to the reader once the epoch is known. -/
def absorb (skew : ℚ) (r : Reader) : Line → Reader
  | .attempt row => { r with attempts := r.attempts ++ (rebased skew [row]).map onWire }
  | .stop error summary =>
    { r with
      error := if error.all (· = "") then r.error else error.map ("agent: " ++ ·)
      agentSummary := some (summaryFields summary)
      ticks := summary.ticks
      dispatchSaturation := summary.dispatchSaturation
      ticksSpacedOut := summary.ticksSpacedOut }

lemma textOf_string {fields : Fields} {key s : String} (h : field? fields key = some (.string s)) :
    textOf lib fields key = s := by
  unfold textOf
  rw [h]
  by_cases hs : s = "" <;> simp [hs, Json.truthy, Library.str]

lemma counter_int {fields : Fields} {key : String} {n : ℤ} (h : field? fields key = some (.int n)) :
    counter fields key = .ok n := by
  unfold counter
  rw [h]
  by_cases hn : n = 0 <;> simp [hn, Json.truthy, Json.toInt]

variable {epochUtc} {args : AgentArgs} {skew : ℚ}

lemma readLine_start (h : Carries lib dumps (startFields args))
    (hskew : skewOf lib epochUtc args.epochUtc = .ok skew) (r : Reader) :
    outcome (readLine lib epochUtc (lineOf dumps (startFields args))) r =
      (.ok (), { r with agentEpochUtc := some args.epochUtc, epochSkewS := some skew }) := by
  have hepoch : textOf lib (startFields args) "epoch_utc" = args.epochUtc := textOf_string rfl
  have hevent : eventOf lib (lineOf dumps (startFields args)) = .start (startFields args) :=
    eventOf_lineOf h
  rw [readLine, hevent]
  dsimp only
  unfold onStart
  dsimp only
  rw [hepoch, outcome_modify_bind, hskew]
  rfl

lemma readLine_attempt {row : ProbeRow} (h : Carries lib dumps (rowFields row)) {r : Reader}
    (hr : r.epochSkewS = some skew) :
    outcome (readLine lib epochUtc (lineOf dumps (rowFields row))) r =
      (.ok (), absorb skew r (.attempt row)) := by
  have hevent : eventOf lib (lineOf dumps (rowFields row)) = .attempt (rowFields row) :=
    eventOf_lineOf h
  have hattempt : attemptOf lib (rowFields row) skew =
      .ok (onWire (shift skew ⟨row.seqId, row.dispatchOffsetS, row.completeOffsetS, row.outcome,
        row.worker, row.detail, row.tsUtc⟩)) := by
    have hdetail : textOf lib (rowFields row) "detail" = row.detail := textOf_string rfl
    have hts : textOf lib (rowFields row) "ts_utc" = row.tsUtc := textOf_string rfl
    unfold attemptOf
    rw [hdetail, hts]
    rfl
  rw [readLine, hevent]
  unfold onAttempt
  rw [outcome_get_bind, hr]
  dsimp only
  rw [hattempt]
  rfl

lemma readLine_stop {error : Option String} {summary : Summary}
    (h : Carries lib dumps (stopFields args error summary)) (r : Reader) :
    outcome (readLine lib epochUtc (lineOf dumps (stopFields args error summary))) r =
      (.ok (), absorb skew r (.stop error summary)) := by
  have hevent : eventOf lib (lineOf dumps (stopFields args error summary)) =
      .stop (stopFields args error summary) := eventOf_lineOf h
  have hreport : outcome (reportError lib (stopFields args error summary)) r =
      (.ok (), { r with
        error := if error.all (· = "") then r.error else error.map ("agent: " ++ ·) }) := by
    have hfield : field? (stopFields args error summary) "error" =
        some ((error.map Json.string).getD .null) := rfl
    unfold reportError
    rw [hfield]
    cases error with
    | none => rfl
    | some text => by_cases ht : text = "" <;> simp [ht, Json.truthy, Library.str]
  have hsummary : field? (stopFields args error summary) "summary" =
      some (.object (summaryFields summary)) := rfl
  have hticks : counter (summaryFields summary) "ticks" = .ok summary.ticks := counter_int rfl
  have hsaturation : counter (summaryFields summary) "dispatch_saturation" =
      .ok summary.dispatchSaturation := counter_int rfl
  have hspaced : counter (summaryFields summary) "ticks_spaced_out" = .ok summary.ticksSpacedOut :=
    counter_int rfl
  rw [readLine, hevent]
  unfold onStop
  rw [outcome_bind_ok hreport]
  unfold keepSummary
  rw [hsummary]
  simp only [hticks, hsaturation, hspaced]
  rfl

/-! ### The whole output -/

/-- What only a stop line tells. -/
def counters (r : Reader) : Option Fields × ℤ × ℤ × ℤ :=
  (r.agentSummary, r.ticks, r.dispatchSaturation, r.ticksSpacedOut)

def countersOf (summary : Summary) : Option Fields × ℤ × ℤ × ℤ :=
  (some (summaryFields summary), summary.ticks, summary.dispatchSaturation,
    summary.ticksSpacedOut)

lemma attempts_foldl_absorb (lines : List Line) (r : Reader) :
    (lines.foldl (absorb skew) r).attempts =
      r.attempts ++ (rebased skew (rowsOf lines)).map onWire := by
  induction lines generalizing r with
  | nil => simp [rowsOf, rebased, attemptsFromRows]
  | cons line lines ih =>
    rw [List.foldl_cons, ih]
    cases line with
    | attempt row => simp [absorb, rowsOf, rebased, attemptsFromRows]
    | stop error summary => rfl

/-- Of several stop lines the last would count. -/
lemma counters_foldl_absorb (lines : List Line) (r : Reader) :
    counters (lines.foldl (absorb skew) r) =
      ((stopsOf lines).getLast?.map fun p => countersOf p.2).getD (counters r) := by
  induction lines using List.reverseRecOn with
  | nil => rfl
  | append_singleton lines line ih =>
    rw [List.foldl_append]
    cases line with
    | attempt row =>
      have hstops : stopsOf (lines ++ [.attempt row]) = stopsOf lines := by simp [stopsOf]
      rw [hstops, ← ih]
      rfl
    | stop error summary => simp [stopsOf, absorb, counters, countersOf]

/-- **The whole output is read**: nothing is raised, and every line has its effect. -/
lemma readStdout_printed {lines : List Line} {heard : List String}
    (hcarries : ∀ fields ∈ startFields args :: lines.map (Line.fields args),
      Carries lib dumps fields)
    (hheard : Heard lib dumps (startFields args :: lines.map (Line.fields args)) heard)
    (hskew : skewOf lib epochUtc args.epochUtc = .ok skew) :
    outcome (readStdout lib epochUtc heard) {} =
      (.ok (), lines.foldl (absorb skew)
        { agentEpochUtc := some args.epochUtc, epochSkewS := some skew }) := by
  have hstart := readLine_start (hcarries _ List.mem_cons_self) hskew {}
  have hline : ∀ line ∈ lines, ∀ r : Reader, r.epochSkewS = some skew →
      outcome (readLine lib epochUtc (lineOf dumps (line.fields args))) r =
          (.ok (), absorb skew r line) ∧
        (absorb skew r line).epochSkewS = some skew := by
    intro line hmem r hr
    have hfields := hcarries _ (List.mem_cons_of_mem _ (List.mem_map_of_mem hmem))
    cases line with
    | attempt row => exact ⟨readLine_attempt hfields hr, hr⟩
    | stop error summary => exact ⟨readLine_stop hfields r, hr⟩
  rw [← outcome_readStdout_filter, hheard, List.map_cons, List.map_map, readStdout, forEach,
    outcome_bind_ok hstart]
  exact outcome_forEach_map (t := lineOf dumps ∘ Line.fields args) hline rfl

variable {s : Agent args.probe.workers}

variable (skew) in
/-- What the reader has when the output ends. -/
structure Delivered (s : Agent args.probe.workers) (r : Reader) : Prop where
  attempts : r.attempts = (rebased skew (rowsOf s.output)).map onWire
  printed : (rowsOf s.output : Multiset ProbeRow) + tally unsentRow s.unsent =
    s.probe.attempts.map toRow
  once : ((rowsOf s.output).map ProbeRow.seqId).Nodup
  counters : ∀ error summary, .stop error summary ∈ s.output →
    AgentDelivery.counters r = countersOf summary

lemma seqIds_nodup_of_run {as : List (Act args.probe.workers)}
    (hrun : run (agentStep args) {} as = some s) :
    ((rowsOf s.output).map ProbeRow.seqId).Nodup := by
  have hconserved := (run_preserves (fun _ _ _ => accounted_step) (probe_of_agent hrun)
    accounted_init).conserved
  have hle : (rowsOf s.output : Multiset ProbeRow) ≤ s.probe.attempts.map toRow :=
    (printing_of_run hrun).rows ▸ Multiset.le_add_right _ _
  have hmap := Multiset.map_le_map (f := ProbeRow.seqId) hle
  rw [Multiset.map_coe, Multiset.map_coe, List.map_map] at hmap
  exact Multiset.coe_nodup.mp
    (Multiset.nodup_of_le hmap (Multiset.coe_nodup.mpr hconserved.recordedOnce))

/-- **Delivery**: over every interleaving of the agent's threads the reader gets through the
output, has every row that was printed, once and on the clock of the run, and has the counters
of the stop line. What is recorded and not in its hands is on the way. -/
theorem delivered_of_run {as : List (Act args.probe.workers)}
    (hrun : run (agentStep args) {} as = some s)
    (hcarries : ∀ fields ∈ printed args s, Carries lib dumps fields) {heard : List String}
    (hheard : Heard lib dumps (printed args s) heard)
    (hskew : skewOf lib epochUtc args.epochUtc = .ok skew) :
    ∃ r, outcome (readStdout lib epochUtc heard) {} = (.ok (), r) ∧ Delivered skew s r := by
  refine ⟨_, readStdout_printed hcarries hheard hskew, ?_, (printing_of_run hrun).rows,
    seqIds_nodup_of_run hrun, fun error summary hmem => ?_⟩
  · rw [attempts_foldl_absorb, List.nil_append]
  · have hstops : (error, summary) ∈ stopsOf s.output :=
      List.mem_filterMap.mpr ⟨_, hmem, rfl⟩
    have honce := (printing_of_run hrun).once
    have hle : (stopsOf s.output).length ≤ 1 := by
      rw [honce]
      split <;> omega
    obtain ⟨p, hp⟩ : ∃ p, stopsOf s.output = [p] :=
      List.length_eq_one_iff.mp (le_antisymm hle (List.length_pos_of_mem hstops))
    obtain rfl : (error, summary) = p := by simpa [hp] using hstops
    rw [counters_foldl_absorb, hp]
    rfl

/-! ### What the harness finds -/

/-- The attempts as the rows have them. -/
def onRecord (attempts : List ProbeAttempt) : List ProbeAttempt :=
  attemptsFromRows (attempts.map toRow)

lemma rowsOf_perm (hrows : (rowsOf s.output : Multiset ProbeRow) + tally unsentRow s.unsent =
    s.probe.attempts.map toRow) (hsent : ∀ i, s.unsent i = none) :
    (attemptsFromRows (rowsOf s.output)).Perm (onRecord s.probe.attempts) := by
  have hnone : tally unsentRow s.unsent = 0 := tally_eq_zero fun i => by rw [hsent i]; rfl
  rw [hnone, add_zero] at hrows
  exact (Multiset.coe_eq_coe.mp hrows).map _

lemma onRecord_known {attempts : List ProbeAttempt}
    (h : ∀ a ∈ attempts, a.outcome ∈ ProbeLog.probeOutcomes) :
    ∀ a ∈ onRecord attempts, a.outcome ∈ ProbeLog.probeOutcomes := by
  intro a ha
  obtain ⟨row, hrow, rfl⟩ := List.mem_map.mp ha
  obtain ⟨b, hb, rfl⟩ := List.mem_map.mp hrow
  exact h b hb

/-- An attempt as the row has it, on the clock of the run. -/
def placed (skew : ℚ) (a : ProbeAttempt) : ProbeAttempt :=
  { a with
    dispatchOffsetS := roundTo 6 a.dispatchOffsetS + skew
    completeOffsetS := roundTo 6 a.completeOffsetS + skew }

lemma mem_rebased {attempts : List ProbeAttempt} {rows : List ProbeRow}
    (h : (attemptsFromRows rows).Perm (onRecord attempts)) {a : ProbeAttempt} :
    a ∈ rebased skew rows ↔ ∃ b ∈ attempts, a = placed skew b := by
  constructor
  · intro ha
    obtain ⟨c, hc, rfl⟩ := List.mem_map.mp ha
    obtain ⟨row, hrow, rfl⟩ := List.mem_map.mp (h.mem_iff.mp hc)
    obtain ⟨b, hb, rfl⟩ := List.mem_map.mp hrow
    exact ⟨b, hb, rfl⟩
  · rintro ⟨b, hb, rfl⟩
    exact List.mem_map.mpr ⟨_, h.mem_iff.mpr
      (List.mem_map.mpr ⟨toRow b, List.mem_map_of_mem hb, rfl⟩), rfl⟩

/-- The log the harness writes passes under the conditions of the agent's, on its own clock. -/
lemma ok_rebased {attempts : List ProbeAttempt} (hrecorded : ProbeLog.Recorded attempts)
    {rows : List ProbeRow} (h : (attemptsFromRows rows).Perm (onRecord attempts)) :
    (ProbeLog.validateProbe (ProbeLog.logOf (rebased skew rows))).ok = true ↔
      (∃ a ∈ attempts, a.served = true) ∧
        ∀ a ∈ attempts, -ProbeLog.tolerance ≤ roundTo 6 (roundTo 6 a.dispatchOffsetS + skew) := by
  have hnumbered : ((rebased skew rows).map ProbeAttempt.seqId).Nodup := by
    have hshift : (rebased skew rows).map ProbeAttempt.seqId =
        (attemptsFromRows rows).map ProbeAttempt.seqId := by
      rw [rebased, List.map_map]
      rfl
    have hrecord : (onRecord attempts).map ProbeAttempt.seqId =
        attempts.map ProbeAttempt.seqId := by
      rw [onRecord, attemptsFromRows, List.map_map, List.map_map]
      rfl
    rw [hshift, (h.map _).nodup_iff, hrecord]
    exact hrecorded.numbered
  rw [ProbeLog.ok_logOf hnumbered]
  · refine and_congr ⟨?_, ?_⟩ ⟨?_, ?_⟩
    · rintro ⟨a, ha, hserved⟩
      obtain ⟨b, hb, rfl⟩ := (mem_rebased h).mp ha
      exact ⟨b, hb, hserved⟩
    · rintro ⟨b, hb, hserved⟩
      exact ⟨placed skew b, (mem_rebased h).mpr ⟨b, hb, rfl⟩, hserved⟩
    · intro hall b hb
      exact hall (placed skew b) ((mem_rebased h).mpr ⟨b, hb, rfl⟩)
    · intro hall a ha
      obtain ⟨b, hb, rfl⟩ := (mem_rebased h).mp ha
      exact hall b hb
  · intro a ha
    obtain ⟨b, hb, rfl⟩ := (mem_rebased h).mp ha
    have hround : roundTo 6 b.dispatchOffsetS ≤ roundTo 6 b.completeOffsetS :=
      roundTo_mono 6 (hrecorded.ordered b hb)
    dsimp only [placed]
    linarith
  · intro a ha
    obtain ⟨b, hb, rfl⟩ := (mem_rebased h).mp ha
    exact hrecorded.classified b hb

/-- What the harness finds in the attempts it has is what is found in those on record: the
summary, the recovery time but for what depends on the order of simultaneous writes, and, but
for a dispatch that its clock has before the epoch, whether the log passes. -/
structure Agrees (attempts harness : List ProbeAttempt) (skew : ℚ) : Prop where
  summary : ∀ d, summarise harness d = summarise (onRecord attempts) d
  rto : ∀ faultOffsetS observationEndS,
    withoutFlight (relative (MeasureRto.measureRto harness (faultOffsetS + skew)
      (observationEndS.map (· + skew)))) =
    withoutFlight (relative (MeasureRto.measureRto (onRecord attempts) faultOffsetS
      observationEndS))
  log : (ProbeLog.validateProbe (ProbeLog.logOf harness)).ok = true ↔
    (∃ a ∈ attempts, a.served = true) ∧
      ∀ a ∈ attempts, -ProbeLog.tolerance ≤ roundTo 6 (roundTo 6 a.dispatchOffsetS + skew)

/-- **The harness agrees with the agent** once the workers have printed what they recorded,
whatever the order of the lines and the difference of the clocks. -/
theorem agrees_of_run {as : List (Act args.probe.workers)}
    (hrun : run (agentStep args) {} as = some s)
    (horder : ProbeLog.InOrder args.probe.epochMonotonic (threadsOf as))
    (hanswers : ProbeLog.Answers (threadsOf as)) (hsent : ∀ i, s.unsent i = none) (skew : ℚ) :
    Agrees s.probe.attempts (rebased skew (rowsOf s.output)) skew := by
  have hrecorded := ProbeLog.recorded_of_run (probe_of_agent hrun) horder hanswers
  have hperm := rowsOf_perm (printing_of_run hrun).rows hsent
  refine ⟨fun d => ?_, fun faultOffsetS observationEndS => ?_, ok_rebased hrecorded hperm⟩
  · rw [rebased, summarise_shift, summarise_perm hperm (onRecord_known hrecorded.classified)]
  · rw [rebased, relative_shift]
    exact congrArg relative (withoutFlight_of_perm hperm)

/-! ### Lines out of order -/

def sampleArgs : AgentArgs := ⟨twoWorkers, "2026-09-08T02:00:08.000000Z", "rto_canary"⟩

/-- The canceled write is printed first, and the one that was served behind the stop line. -/
def sampleActs : List (Act sampleArgs.probe.workers) :=
  let second : Fin 2 := Fin.last 1
  ProbeLog.canceledRun.map .thread ++
    [.emit second, .thread .setStop, .finish none, .emit second.rev]

def servedRow : ProbeRow :=
  ⟨"2026-09-08T02:00:08.300000Z", 1, 1 / 10, 3 / 10, 200, "ok", 0, ""⟩

def canceledRow : ProbeRow :=
  ⟨"2026-09-08T02:00:13.000000Z", 2, 1 / 5, 5, 4800, "timeout", 1,
    "QueryCanceled: canceling statement due to statement timeout"⟩

def sampleSummary : Summary where
  attempts := 2
  outcomes := Dict.ofList [("ok", 1), ("timeout", 1), ("conn_error", 0), ("refused", 0)]
  dispatchIntervalS := 1 / 10
  workers := 2
  ticks := 2
  dispatchSaturation := 0
  dispatchSaturationPct := some 0
  ticksSpacedOut := 0
  achievedRatePerS := some (41 / 100)
  servedRatePerS := some (20 / 100)
  resolutionS := none
  gapP50S := none
  gapMaxS := none
  medianWriteMs := some 200
  spanS := 49 / 10

lemma sampleActs_run : ∃ s, run (agentStep sampleArgs) {} sampleActs = some s ∧
    s.output = [.attempt canceledRow, .stop none sampleSummary, .attempt servedRow] ∧
    ∀ i, s.unsent i = none := by
  have hmap : (run (agentStep sampleArgs) {} sampleActs).map
      (fun s => (s.output, (List.finRange _).map s.unsent)) =
        some ([.attempt canceledRow, .stop none sampleSummary, .attempt servedRow],
          [none, none]) := by
    decide +kernel
  obtain ⟨s, hs, houtput⟩ := Option.map_eq_some_iff.mp hmap
  obtain ⟨houtput, hunsent⟩ := Prod.mk.inj houtput
  refine ⟨s, hs, houtput, fun i => ?_⟩
  have hmem : s.unsent i ∈ (List.finRange _).map s.unsent :=
    List.mem_map_of_mem (List.mem_finRange i)
  rw [hunsent] at hmem
  simpa using hmem

def braced (body : String) : String := "\x7b" ++ body ++ "\x7d"

def startText : String :=
  braced ("\"__agent__\":\"start\",\"epoch_utc\":\"2026-09-08T02:00:08.000000Z\"," ++
    "\"table\":\"rto_canary\",\"workers\":2,\"interval_s\":0.1")

def servedText : String :=
  braced ("\"ts_utc\":\"2026-09-08T02:00:08.300000Z\",\"seq_id\":1,\"dispatch_offset_s\":0.1," ++
    "\"complete_offset_s\":0.3,\"duration_ms\":200.0,\"outcome\":\"ok\",\"worker\":0," ++
    "\"detail\":\"\"")

def canceledText : String :=
  braced ("\"ts_utc\":\"2026-09-08T02:00:13.000000Z\",\"seq_id\":2,\"dispatch_offset_s\":0.2," ++
    "\"complete_offset_s\":5.0,\"duration_ms\":4800.0,\"outcome\":\"timeout\",\"worker\":1," ++
    "\"detail\":\"QueryCanceled: canceling statement due to statement timeout\"")

def summaryText : String :=
  braced ("\"attempts\":2,\"outcomes\":" ++
    braced "\"ok\":1,\"timeout\":1,\"conn_error\":0,\"refused\":0" ++
    ",\"dispatch_interval_s\":0.1,\"workers\":2,\"ticks\":2,\"dispatch_saturation\":0," ++
    "\"dispatch_saturation_pct\":0.0,\"ticks_spaced_out\":0,\"achieved_rate_per_s\":0.41," ++
    "\"served_rate_per_s\":0.2,\"resolution_s\":null,\"gap_p50_s\":null,\"gap_max_s\":null," ++
    "\"median_write_ms\":200.0,\"span_s\":4.9,\"note\":\"" ++ note ++ "\"")

def stopText : String :=
  braced ("\"__agent__\":\"stop\",\"epoch_utc\":\"2026-09-08T02:00:08.000000Z\",\"error\":null," ++
    "\"summary\":" ++ summaryText)

/-- The texts of the four records. -/
def sampleDumps (fields : Fields) : String :=
  match field? fields "seq_id", field? fields agentResultKey with
  | some (.int 1), _ => servedText
  | some _, _ => canceledText
  | none, some (.string "start") => startText
  | none, _ => stopText

/-- A library that reads the four lines and their instants as the real one does. -/
def sampleLibrary : Library where
  loads := fun text =>
    if text = startText then .ok (.object (startFields sampleArgs))
    else if text = servedText then .ok (.object (rowFields servedRow))
    else if text = canceledText then .ok (.object (rowFields canceledRow))
    else if text = stopText then .ok (.object (stopFields sampleArgs none sampleSummary))
    else .error .value
  fromisoformat := fun stamp =>
    [("2026-09-08T02:00:00.000000+00:00", Stamp.aware 1788832800),
      ("2026-09-08T02:00:08.000000+00:00", .aware 1788832808)].lookup stamp
  repr := fun _ => ""

/-- What is in braces has no white space around it. -/
lemma strip_braced (body : String) : strip isSpace (braced body).toList = (braced body).toList := by
  have hlist : (braced body).toList = '\x7b' :: (body.toList ++ ['\x7d']) := by
    simp [braced]
  rw [hlist]
  refine strip_of_ends (fun c hc => ?_) fun c hc => ?_
  · obtain rfl : '\x7b' = c := by simpa using hc
    decide
  · obtain rfl : '\x7d' = c := by simpa [List.getLast?_cons] using hc
    decide

lemma carries_of_text {fields : Fields} (body : String) (hdumps : sampleDumps fields = braced body)
    (hloads : sampleLibrary.loads (braced body) = .ok (.object fields)) :
    Carries sampleLibrary sampleDumps fields := by
  refine ⟨hdumps ▸ hloads, hdumps ▸ strip_braced body, fun hempty => ?_⟩
  rw [hdumps] at hempty
  simpa [braced] using congrArg String.length hempty

lemma loads_start :
    sampleLibrary.loads startText = .ok (.object (startFields sampleArgs)) := by
  simp only [sampleLibrary, if_true]

lemma loads_served : sampleLibrary.loads servedText = .ok (.object (rowFields servedRow)) := by
  have hstart : servedText ≠ startText := by decide
  simp only [sampleLibrary, hstart, if_false, if_true]

lemma loads_canceled :
    sampleLibrary.loads canceledText = .ok (.object (rowFields canceledRow)) := by
  have hstart : canceledText ≠ startText := by decide
  have hserved : canceledText ≠ servedText := by decide
  simp only [sampleLibrary, hstart, hserved, if_false, if_true]

lemma loads_stop : sampleLibrary.loads stopText =
    .ok (.object (stopFields sampleArgs none sampleSummary)) := by
  have hstart : stopText ≠ startText := by decide
  have hserved : stopText ≠ servedText := by decide
  have hcanceled : stopText ≠ canceledText := by decide
  simp only [sampleLibrary, hstart, hserved, hcanceled, if_false, if_true]

lemma sampleArgs_carried : ∀ fields ∈ startFields sampleArgs ::
    [Line.attempt canceledRow, .stop none sampleSummary, .attempt servedRow].map
      (Line.fields sampleArgs), Carries sampleLibrary sampleDumps fields := by
  intro fields hfields
  simp only [List.map_cons, List.map_nil, List.mem_cons, List.not_mem_nil, or_false] at hfields
  rcases hfields with rfl | rfl | rfl | rfl
  · exact carries_of_text _ (.refl startText) loads_start
  · exact carries_of_text _ (.refl canceledText) loads_canceled
  · exact carries_of_text _ (.refl stopText) loads_stop
  · exact carries_of_text _ (.refl servedText) loads_served

/-- What the remote shell says before it starts the agent. -/
def shellWarning : String := "bash: warning: setlocale: cannot change locale\n"

/-- What arrives. -/
def sampleHeard : List String :=
  [shellWarning, startText ++ "\n", canceledText ++ "\n", stopText ++ "\n", servedText ++ "\n"]

theorem sampleActs_delivered : ∃ s, run (agentStep sampleArgs) {} sampleActs = some s ∧
    (rowsOf s.output).map ProbeRow.seqId = [2, 1] ∧
    ∃ r, outcome (readStdout sampleLibrary "2026-09-08T02:00:00.000000Z" sampleHeard) {} =
      (.ok (), r) ∧ Delivered 8 s r := by
  obtain ⟨s, hs, houtput, -⟩ := sampleActs_run
  have hprinted : printed sampleArgs s = startFields sampleArgs ::
      [Line.attempt canceledRow, .stop none sampleSummary, .attempt servedRow].map
        (Line.fields sampleArgs) := by rw [printed, houtput]
  have hcarries := hprinted ▸ sampleArgs_carried
  have hwarning : meaningful sampleLibrary shellWarning = false := by decide
  have hheard : sampleHeard = shellWarning :: (printed sampleArgs s).map (lineOf sampleDumps) := by
    rw [hprinted]
    rfl
  refine ⟨s, hs, by rw [houtput]; rfl, ?_⟩
  exact delivered_of_run hs hcarries (hheard ▸ heard_cons hcarries hwarning) (by decide +kernel)

theorem sampleActs_agree : ∃ s, run (agentStep sampleArgs) {} sampleActs = some s ∧
    Agrees s.probe.attempts (rebased 8 (rowsOf s.output)) 8 := by
  obtain ⟨s, hs, -, hsent⟩ := sampleActs_run
  have hthreads : threadsOf sampleActs = ProbeLog.canceledRun ++ [.setStop] := by decide +kernel
  have horder : ProbeLog.InOrder sampleArgs.probe.epochMonotonic (threadsOf sampleActs) := by
    rw [hthreads]
    decide +kernel
  refine ⟨s, hs, agrees_of_run hs horder ?_ hsent 8⟩
  rw [hthreads]
  intro i r hmem
  rcases List.mem_append.mp hmem with hmem | hmem
  · exact ProbeLog.answers_canceledRun i r hmem
  · cases List.mem_singleton.mp hmem

end CrdbLab.AgentDelivery
