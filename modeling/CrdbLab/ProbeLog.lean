import CrdbLab.ProbeDispatch
import CrdbLab.ProbeRows
import CrdbLab.ProbeSections
import CrdbLab.Validation

/-!
The log of the probe, and whether it is consistent with itself.

What the driver raises is put into one of three classes. What the threads record under a
clock that does not run backwards passes every check on the log, but for the one that asks
whether any write was served; on another clock it passes as long as no dispatch is moved before
the epoch.
-/

namespace CrdbLab.ProbeLog

open CrdbLab.Lib.Rounding CrdbLab.Lib.KeySort CrdbLab.Lib.OrderStat CrdbLab.Lib.Numeral
open CrdbLab.Lib.Runs CrdbLab.RtoProbe CrdbLab.ProbeDispatch CrdbLab.ProbeRows
open CrdbLab.Validation (Severity Finding ValidationReport)
open CrdbLab.RowMatch (reprList)

/-! ### What the driver raises -/

/-- An exception: the name of its class, and its text. -/
structure Raised where
  name : String
  text : String
  deriving DecidableEq, Repr

/-- The first line of the text, or the name where there is none. -/
def Raised.firstLine (exc : Raised) : List Char :=
  match ProbeSections.lines (strip isSpace exc.text.toList) with
  | [] => exc.name.toList
  | line :: _ => line

/-- Outside ASCII no letter that stands in one of the words below has another case. -/
def Raised.lowered (exc : Raised) : List Char :=
  (exc.name.toList ++ ' ' :: exc.firstLine).map Char.toLower

def Raised.mentions (exc : Raised) (word : String) : Prop := word.toList <:+: exc.lowered

instance (exc : Raised) (word : String) : Decidable (exc.mentions word) :=
  inferInstanceAs (Decidable (word.toList <:+: exc.lowered))

def classify (exc : Raised) : String × String :=
  let detail := String.ofList ((exc.name.toList ++ ": ".toList ++ exc.firstLine).take 200)
  if exc.mentions "timeout" ∨ exc.mentions "canceling statement" then ("timeout", detail)
  else if exc.mentions "operational" ∨ exc.mentions "interface" ∨ exc.mentions "connection" then
    ("conn_error", detail)
  else ("refused", detail)

/-! ### The checks -/

/-- The outcomes the downtime split is defined over. -/
def probeOutcomes : List String := ["ok", "timeout", "conn_error", "refused"]

/-- One row of the log; a cell may be missing. -/
structure Entry where
  seqId : Option ℚ
  dispatchOffsetS : Option ℚ
  completeOffsetS : Option ℚ
  outcome : Option String
  deriving DecidableEq, Repr

structure Table where
  columns : List String
  rows : List Entry

/-- What a finding carries. -/
inductive Detail
  | missing (columns : List String)
  | rows (rows : List ℕ)
  | unknown (outcomes : List String)
  | refused (count : ℕ)
  | duplicates (numbers : List (Option ℚ))
  | nothing
  deriving DecidableEq, Repr

/-- The labels of the rows that fail a test. -/
def labels (bad : Entry → Bool) (rows : List Entry) : List ℕ :=
  (rows.zipIdx.filter fun p => bad p.1).map Prod.snd

def tolerance : ℚ := 1 / 10 ^ 9

/-- Completed before it was dispatched, which no missing cell tells. -/
def Entry.backwards (e : Entry) : Bool :=
  match e.completeOffsetS, e.dispatchOffsetS with
  | some complete, some dispatch => complete < dispatch - tolerance
  | _, _ => false

def Entry.negative (e : Entry) : Bool := e.dispatchOffsetS.any (· < -tolerance)

def checkProbeOrdering (rows : List Entry) : List (Finding Detail) :=
  let backwards := labels Entry.backwards rows
  let negative := labels Entry.negative rows
  (if backwards = [] then []
    else
      [{ check := "probe_ordering"
         severity := .error
         message := toString backwards.length ++ " probe attempt(s) completed before they were " ++
           "dispatched; the two offset columns are not on the same clock"
         detail := .rows (backwards.take 10) }]) ++
    if negative = [] then []
    else
      [{ check := "probe_ordering"
         severity := .error
         message := toString negative.length ++ " probe attempt(s) were dispatched before the " ++
           "run's epoch; the probe was given an epoch later than its own start"
         detail := .rows (negative.take 10) }]

/-- The outcomes that are none of the known ones. -/
def unknownOutcomes (rows : List Entry) : List String :=
  sorted ((rows.filterMap Entry.outcome).dedup.filter fun o => o ∉ probeOutcomes)

def refusedCount (rows : List Entry) : ℕ := rows.countP fun e => e.outcome = some "refused"

def unknownFinding (unknown : List String) : Finding Detail where
  check := "probe_outcomes"
  severity := .error
  message := "probe log contains unrecognised outcome(s) " ++ reprList unknown ++
    "; the downtime split is defined only over " ++ reprList probeOutcomes
  detail := .unknown unknown

def refusedFinding (refused : ℕ) : Finding Detail where
  check := "probe_outcomes"
  severity := .warning
  message := toString refused ++ " probe write(s) were refused by a reachable database. That " ++
    "is a defect in the probe, not an outage, and those attempts must not be read as downtime"
  detail := .refused refused

def unservedFinding : Finding Detail where
  check := "probe_outcomes"
  severity := .error
  message := "no probe write was ever served, so there is no baseline against which an " ++
    "outage could be measured; the probe never reached the database"
  detail := .nothing

def checkProbeOutcomes (rows : List Entry) : List (Finding Detail) :=
  (if unknownOutcomes rows = [] then [] else [unknownFinding (unknownOutcomes rows)]) ++
    (if refusedCount rows = 0 then [] else [refusedFinding (refusedCount rows)]) ++
      if rows.any fun e => e.outcome = some "ok" then [] else [unservedFinding]

/-- The entries that have occurred before, those of `seen` included. -/
def repeated {α : Type*} [DecidableEq α] (seen : List α) : List α → List α
  | [] => []
  | a :: l => if a ∈ seen then a :: repeated seen l else repeated (a :: seen) l

def checkProbeSequence (rows : List Entry) : List (Finding Detail) :=
  let duplicated := repeated [] (rows.map Entry.seqId)
  if duplicated = [] then []
  else
    [{ check := "probe_sequence"
       severity := .error
       message := toString duplicated.length ++ " probe sequence number(s) appear more than " ++
         "once; an attempt was retried under its own id, which double-counts an observation"
       detail := .duplicates (duplicated.take 10) }]

def required : List String := ["seq_id", "dispatch_offset_s", "complete_offset_s", "outcome"]

def emptyFinding : Finding Detail where
  check := "probe_schema"
  severity := .error
  message := "probe log has no rows, so the probe recorded no observation of availability at all"
  detail := .nothing

def validateProbe (t : Table) : ValidationReport Detail :=
  let missing := sorted (required.filter fun c => c ∉ t.columns)
  if missing ≠ [] then
    ⟨[{ check := "probe_schema"
        severity := .error
        message := "probe log is missing required column(s) " ++ reprList missing
        detail := .missing missing }]⟩
  else if t.rows = [] then ⟨[emptyFinding]⟩
  else
    ⟨checkProbeOrdering t.rows ++ checkProbeOutcomes t.rows ++ checkProbeSequence t.rows⟩

/-! ### When the log passes -/

lemma classify_mem (exc : Raised) : (classify exc).1 ∈ ["timeout", "conn_error", "refused"] := by
  unfold classify
  dsimp only
  split_ifs <;> simp

lemma labels_eq_nil {bad : Entry → Bool} {rows : List Entry} :
    labels bad rows = [] ↔ ∀ e ∈ rows, bad e = false := by
  rw [labels, List.map_eq_nil_iff, List.filter_eq_nil_iff]
  constructor
  · intro h e he
    obtain ⟨i, hi, rfl⟩ := List.getElem_of_mem he
    simpa using h (rows[i], i) (List.mem_zipIdx_iff_getElem?.mpr (List.getElem?_eq_getElem hi))
  · rintro h ⟨e, i⟩ he
    simpa using h e (List.mem_of_getElem? (List.mem_zipIdx_iff_getElem?.mp he))

lemma repeated_eq_nil {α : Type*} [DecidableEq α] {seen l : List α} :
    repeated seen l = [] ↔ l.Nodup ∧ ∀ a ∈ l, a ∉ seen := by
  induction l generalizing seen with
  | nil => simp [repeated]
  | cons a l ih =>
    rw [repeated]
    split
    · next ha => simp [ha]
    · next ha =>
      rw [ih, List.nodup_cons]
      constructor
      · rintro ⟨hnodup, hseen⟩
        refine ⟨⟨fun hmem => hseen a hmem List.mem_cons_self, hnodup⟩, ?_⟩
        rintro b (_ | ⟨_, hb⟩)
        · exact ha
        · exact fun h => hseen b hb (List.mem_cons_of_mem a h)
      · rintro ⟨⟨hmem, hnodup⟩, hseen⟩
        refine ⟨hnodup, fun b hb h => ?_⟩
        rcases List.mem_cons.mp h with rfl | h
        · exact hmem hb
        · exact hseen b (List.mem_cons_of_mem a hb) h

/-- The rows of a run as a table. -/
def entryOf (row : ProbeRow) : Entry where
  seqId := some row.seqId
  dispatchOffsetS := some row.dispatchOffsetS
  completeOffsetS := some row.completeOffsetS
  outcome := some row.outcome

def probeColumns : List String :=
  ["ts_utc", "seq_id", "dispatch_offset_s", "complete_offset_s", "duration_ms", "outcome", "worker",
    "detail"]

/-- The log a run writes. -/
def logOf (attempts : List ProbeAttempt) : Table :=
  ⟨probeColumns, (recordedRows attempts).map entryOf⟩

/-- What a run under one clock records. -/
structure Recorded (attempts : List ProbeAttempt) : Prop where
  numbered : (attempts.map ProbeAttempt.seqId).Nodup
  ordered : ∀ a ∈ attempts, a.dispatchOffsetS ≤ a.completeOffsetS
  started : ∀ a ∈ attempts, 0 ≤ a.dispatchOffsetS
  classified : ∀ a ∈ attempts, a.outcome ∈ probeOutcomes

lemma mem_logOf {attempts : List ProbeAttempt} {e : Entry} :
    e ∈ (logOf attempts).rows ↔ ∃ a ∈ attempts, entryOf (toRow a) = e := by
  simp [logOf, recordedRows]

lemma logOf_rows_eq_nil {attempts : List ProbeAttempt} :
    (logOf attempts).rows = [] ↔ attempts = [] := by
  simp only [List.eq_nil_iff_forall_not_mem, mem_logOf]
  exact ⟨fun h a ha => h _ ⟨a, ha, rfl⟩, fun h e ⟨a, ha, _⟩ => h a ha⟩

lemma seqIds_logOf (attempts : List ProbeAttempt) :
    ((logOf attempts).rows.map Entry.seqId).Perm
      (attempts.map fun a => some (a.seqId : ℚ)) := by
  have hrows : (logOf attempts).rows.map Entry.seqId =
      (sortOn ProbeAttempt.completeOffsetS attempts).map fun a => some (a.seqId : ℚ) := by
    simp only [logOf, recordedRows, List.map_map]
    rfl
  rw [hrows]
  exact (sortOn_perm _ attempts).map _

variable {attempts : List ProbeAttempt}

lemma checkProbeSequence_logOf (h : (attempts.map ProbeAttempt.seqId).Nodup) :
    checkProbeSequence (logOf attempts).rows = [] := by
  have hnodup : ((logOf attempts).rows.map Entry.seqId).Nodup := by
    rw [(seqIds_logOf attempts).nodup_iff]
    have hinj : Function.Injective fun n : ℤ => some (n : ℚ) :=
      fun m n hmn => Int.cast_injective (Option.some.inj hmn)
    have hmap := h.map hinj
    rw [List.map_map] at hmap
    exact hmap
  rw [checkProbeSequence, if_pos (repeated_eq_nil.mpr ⟨hnodup, by simp⟩)]

/-- No write is reported that completed before it was dispatched. -/
lemma not_backwards {a : ProbeAttempt} (h : a.dispatchOffsetS ≤ a.completeOffsetS) :
    (entryOf (toRow a)).backwards = false := by
  have hround : roundTo 6 a.dispatchOffsetS ≤ roundTo 6 a.completeOffsetS := roundTo_mono 6 h
  have htol : (0 : ℚ) < tolerance := by norm_num [tolerance]
  simp only [entryOf, toRow, Entry.backwards, decide_eq_false_iff_not, not_lt]
  linarith

lemma negative_entryOf {a : ProbeAttempt} :
    (entryOf (toRow a)).negative = false ↔ -tolerance ≤ roundTo 6 a.dispatchOffsetS := by
  simp [entryOf, toRow, Entry.negative]

lemma onTime {x : ℚ} (h : 0 ≤ x) : -tolerance ≤ roundTo 6 x := by
  have hround : 0 ≤ roundTo 6 x := roundTo_nonneg h
  have htol : (0 : ℚ) < tolerance := by norm_num [tolerance]
  linarith

lemma checkProbeOrdering_ok (h : ∀ a ∈ attempts, a.dispatchOffsetS ≤ a.completeOffsetS) :
    checkProbeOrdering (logOf attempts).rows = [] ↔
      ∀ a ∈ attempts, -tolerance ≤ roundTo 6 a.dispatchOffsetS := by
  have hback : labels Entry.backwards (logOf attempts).rows = [] := by
    refine labels_eq_nil.mpr fun e he => ?_
    obtain ⟨a, ha, rfl⟩ := mem_logOf.mp he
    exact not_backwards (h a ha)
  have hneg : labels Entry.negative (logOf attempts).rows = [] ↔
      ∀ a ∈ attempts, -tolerance ≤ roundTo 6 a.dispatchOffsetS := by
    rw [labels_eq_nil]
    constructor
    · exact fun h a ha => negative_entryOf.mp (h _ (mem_logOf.mpr ⟨a, ha, rfl⟩))
    · intro h e he
      obtain ⟨a, ha, rfl⟩ := mem_logOf.mp he
      exact negative_entryOf.mpr (h a ha)
  rw [← hneg, checkProbeOrdering, if_pos hback, List.nil_append]
  split
  · next hnil => simp [hnil]
  · next hne => simp [hne]

lemma unknownOutcomes_logOf (h : ∀ a ∈ attempts, a.outcome ∈ probeOutcomes) :
    unknownOutcomes (logOf attempts).rows = [] := by
  have hnone : ((logOf attempts).rows.filterMap Entry.outcome).dedup.filter
      (fun o => o ∉ probeOutcomes) = [] := by
    refine List.filter_eq_nil_iff.mpr fun o ho => ?_
    obtain ⟨e, he, heo⟩ := List.mem_filterMap.mp (List.mem_dedup.mp ho)
    obtain ⟨a, ha, rfl⟩ := mem_logOf.mp he
    obtain rfl : a.outcome = o := Option.some.inj heo
    simpa using h a ha
  rw [unknownOutcomes, hnone]
  rfl

/-- The log counts the refused writes of the run. -/
lemma refusedCount_logOf :
    refusedCount (logOf attempts).rows = attempts.countP fun a => a.outcome = "refused" := by
  rw [refusedCount, logOf, recordedRows, List.map_map, List.countP_map,
    (sortOn_perm _ attempts).countP_eq]
  exact List.countP_congr fun a _ => by simp [entryOf, toRow]

lemma any_ok_logOf :
    (logOf attempts).rows.any (fun e => e.outcome = some "ok") =
      attempts.any ProbeAttempt.served := by
  rw [Bool.eq_iff_iff, List.any_eq_true, List.any_eq_true]
  constructor
  · rintro ⟨e, he, hok⟩
    obtain ⟨a, ha, rfl⟩ := mem_logOf.mp he
    exact ⟨a, ha, by simpa [entryOf, toRow, ProbeAttempt.served] using hok⟩
  · rintro ⟨a, ha, hok⟩
    refine ⟨_, mem_logOf.mpr ⟨a, ha, rfl⟩, ?_⟩
    simpa [entryOf, toRow, ProbeAttempt.served] using hok

/-- What the checks say of a log in which only the outcomes of the writes are in question. -/
def outcomeFindings (attempts : List ProbeAttempt) : List (Finding Detail) :=
  let refused := attempts.countP fun a => a.outcome = "refused"
  (if refused = 0 then [] else [refusedFinding refused]) ++
    if attempts.any ProbeAttempt.served then [] else [unservedFinding]

lemma validateProbe_logOf (hne : attempts ≠ [])
    (hnumbered : (attempts.map ProbeAttempt.seqId).Nodup)
    (hclassified : ∀ a ∈ attempts, a.outcome ∈ probeOutcomes) :
    (validateProbe (logOf attempts)).findings =
      checkProbeOrdering (logOf attempts).rows ++ outcomeFindings attempts := by
  have hcolumns : sorted (required.filter fun c => c ∉ (logOf attempts).columns) = [] := by
    have hnone : required.filter (fun c => c ∉ probeColumns) = [] := by decide
    rw [logOf, hnone]
    rfl
  rw [validateProbe, if_neg (not_not.mpr hcolumns),
    if_neg fun h => hne (logOf_rows_eq_nil.mp h)]
  simp only [checkProbeSequence_logOf hnumbered, List.append_nil, checkProbeOutcomes,
    unknownOutcomes_logOf hclassified, refusedCount_logOf, any_ok_logOf, outcomeFindings,
    if_true, List.nil_append]

/-- **The report on a recorded log** says nothing but what became of the writes. -/
lemma validateProbe_recorded (h : Recorded attempts) :
    (validateProbe (logOf attempts)).findings =
      if attempts = [] then [emptyFinding] else outcomeFindings attempts := by
  split
  · next hnil =>
    subst hnil
    rfl
  · next hne =>
    have hordering : checkProbeOrdering (logOf attempts).rows = [] :=
      (checkProbeOrdering_ok h.ordered).mpr fun a ha => onTime (h.started a ha)
    rw [validateProbe_logOf hne h.numbered h.classified, hordering, List.nil_append]

/-- What is found about the order is an error. -/
lemma severity_checkProbeOrdering {rows : List Entry} {f : Finding Detail}
    (h : f ∈ checkProbeOrdering rows) : f.severity = .error := by
  unfold checkProbeOrdering at h
  rcases List.mem_append.mp h with h | h
  all_goals
    split at h
    · cases h
    · rw [List.mem_singleton.mp h]

lemma ok_outcomeFindings :
    (∀ f ∈ outcomeFindings attempts, f.severity ≠ .error) ↔ ∃ a ∈ attempts, a.served = true := by
  rw [← List.any_eq_true, outcomeFindings]
  cases attempts.any ProbeAttempt.served with
  | true =>
    refine iff_of_true (fun f hf => ?_) rfl
    simp only [if_true, List.append_nil] at hf
    split at hf
    · cases hf
    · rw [List.mem_singleton.mp hf]
      simp [refusedFinding]
  | false =>
    refine iff_of_false (fun h => ?_) Bool.false_ne_true
    exact h unservedFinding (by simp) rfl

/-- **When a log passes**: a write was served, and none was dispatched before the epoch. -/
lemma ok_logOf (hnumbered : (attempts.map ProbeAttempt.seqId).Nodup)
    (hordered : ∀ a ∈ attempts, a.dispatchOffsetS ≤ a.completeOffsetS)
    (hclassified : ∀ a ∈ attempts, a.outcome ∈ probeOutcomes) :
    (validateProbe (logOf attempts)).ok = true ↔
      (∃ a ∈ attempts, a.served = true) ∧
        ∀ a ∈ attempts, -tolerance ≤ roundTo 6 a.dispatchOffsetS := by
  by_cases hne : attempts = []
  · subst hne
    exact iff_of_false (by decide) (by simp)
  · rw [ValidationReport.ok, validateProbe_logOf hne hnumbered hclassified,
      ← checkProbeOrdering_ok hordered, ← ok_outcomeFindings]
    simp only [Bool.not_eq_true', List.any_eq_false, decide_eq_true_eq, List.mem_append]
    constructor
    · intro h
      refine ⟨fun f hf => h f (Or.inr hf), List.eq_nil_iff_forall_not_mem.mpr fun f hf => ?_⟩
      exact h f (Or.inl hf) (severity_checkProbeOrdering hf)
    · rintro ⟨houtcomes, hnil⟩ f (hf | hf)
      · rw [hnil] at hf
        cases hf
      · exact houtcomes f hf

/-- The log of a run under one clock passes exactly if a write was served. -/
lemma ok_recorded (h : Recorded attempts) :
    (validateProbe (logOf attempts)).ok = true ↔ ∃ a ∈ attempts, a.served = true := by
  rw [ok_logOf h.numbered h.ordered h.classified]
  exact and_iff_left fun a ha => onTime (h.started a ha)

/-! ### What the threads record -/

variable {workers : ℕ}

/-- The statements are performed one after the other on a clock that does not run backwards;
what a statement reads first it does not read later than what it reads next. -/
def InOrder : ℚ → List (Action workers) → Prop
  | _, [] => True
  | t, .setStop :: as => InOrder t as
  | t, .dispatcher r :: as => t ≤ r.now ∧ r.now ≤ r.later ∧ InOrder r.later as
  | t, .worker _ r :: as => t ≤ r.now ∧ r.now ≤ r.later ∧ InOrder r.later as

instance decidableInOrder : (t : ℚ) → (as : List (Action workers)) → Decidable (InOrder t as)
  | _, [] => .isTrue trivial
  | t, .setStop :: as => decidableInOrder t as
  | t, .dispatcher r :: as =>
    have := decidableInOrder r.later as
    inferInstanceAs (Decidable (t ≤ r.now ∧ r.now ≤ r.later ∧ InOrder r.later as))
  | t, .worker _ r :: as =>
    have := decidableInOrder r.later as
    inferInstanceAs (Decidable (t ≤ r.now ∧ r.now ≤ r.later ∧ InOrder r.later as))

/-- The write was served, or the driver raised. -/
def Answered (r : Reading) : Prop :=
  (r.outcome, r.detail) = ("ok", "") ∨ ∃ exc, (r.outcome, r.detail) = classify exc

lemma Answered.mem {r : Reading} (h : Answered r) : r.outcome ∈ probeOutcomes := by
  rcases h with hok | ⟨exc, hexc⟩
  · obtain ⟨houtcome, -⟩ := Prod.mk.inj hok
    simp [probeOutcomes, houtcome]
  · have hclass : (classify exc).1 = r.outcome := (congrArg Prod.fst hexc).symm
    exact hclass ▸ List.mem_cons_of_mem _ (classify_mem exc)

/-- Every write is answered. -/
def Answers (as : List (Action workers)) : Prop :=
  ∀ i r, Action.worker i r ∈ as → Answered r

/-- The moments of dispatch in the dispatcher's hand. -/
def moments : Dispatcher → List ℚ
  | .testing now | .acquiring now | .holding now => [now]
  | .putting job => [job.dispatched]
  | _ => []

/-- What a worker holds was dispatched within the time and completed no earlier. -/
def HeldInTime (epoch t : ℚ) : Worker → Prop
  | .attempting job => epoch ≤ job.dispatched ∧ job.dispatched ≤ t
  | .attempted job outcome _ completed | .noted job outcome _ completed =>
    epoch ≤ job.dispatched ∧ job.dispatched ≤ completed ∧ outcome ∈ probeOutcomes
  | _ => True

variable (probe : Probe) in
/-- The invariant of every interleaving at the time `t`. -/
structure InTime (t : ℚ) (s : State probe.workers) : Prop where
  now : probe.epochMonotonic ≤ t
  dispatcher : ∀ now ∈ moments s.dispatcher, probe.epochMonotonic ≤ now ∧ now ≤ t
  queue : ∀ job ∈ s.queue, probe.epochMonotonic ≤ job.dispatched ∧ job.dispatched ≤ t
  pool : ∀ i, HeldInTime probe.epochMonotonic t (s.pool i)
  ordered : ∀ a ∈ s.attempts, a.dispatchOffsetS ≤ a.completeOffsetS
  started : ∀ a ∈ s.attempts, 0 ≤ a.dispatchOffsetS
  classified : ∀ a ∈ s.attempts, a.outcome ∈ probeOutcomes

lemma HeldInTime.mono {epoch t u : ℚ} {w : Worker} (h : HeldInTime epoch t w) (htu : t ≤ u) :
    HeldInTime epoch u w := by
  cases w with
  | attempting job => exact ⟨h.1, h.2.trans htu⟩
  | attempted job outcome detail completed => exact h
  | noted job outcome detail completed => exact h
  | _ => trivial

variable {probe : Probe} {s : State probe.workers} {t u : ℚ}

lemma inTime_init : InTime probe probe.epochMonotonic (init probe.workers) where
  now := le_refl _
  dispatcher := nofun
  queue := nofun
  pool _ := trivial
  ordered := nofun
  started := nofun
  classified := nofun

lemma InTime.mono (h : InTime probe t s) (htu : t ≤ u) : InTime probe u s where
  now := h.now.trans htu
  dispatcher now hnow := ⟨(h.dispatcher now hnow).1, (h.dispatcher now hnow).2.trans htu⟩
  queue job hjob := ⟨(h.queue job hjob).1, (h.queue job hjob).2.trans htu⟩
  pool i := (h.pool i).mono htu
  ordered := h.ordered
  started := h.started
  classified := h.classified

/-- The dispatcher moves on with moments that are within the time. -/
lemma InTime.dispatch (h : InTime probe t s) {v : State probe.workers}
    (hmoments : ∀ now ∈ moments v.dispatcher, probe.epochMonotonic ≤ now ∧ now ≤ t)
    (hqueue : ∀ job ∈ v.queue, probe.epochMonotonic ≤ job.dispatched ∧ job.dispatched ≤ t)
    (hpool : v.pool = s.pool) (hattempts : v.attempts = s.attempts) : InTime probe t v where
  now := h.now
  dispatcher := hmoments
  queue := hqueue
  pool := hpool ▸ h.pool
  ordered := hattempts ▸ h.ordered
  started := hattempts ▸ h.started
  classified := hattempts ▸ h.classified

/-- **Step lemma of the dispatcher**: what it dispatches it dispatches now. -/
lemma inTime_dispatcher (h : InTime probe t s) {r : Reading} (hnow : t ≤ r.now) :
    InTime probe r.now (dispatcherEffect probe s r) := by
  have h := h.mono hnow
  have hmoments := h.dispatcher
  unfold dispatcherEffect
  rcases hd : s.dispatcher with _ | _ | _ | _ | now | _ | now | _ | now | job | _ | _ | _
  all_goals rw [hd] at hmoments; dsimp only
  case counting =>
    refine h.dispatch ?_ h.queue rfl rfl
    rintro now (_ | ⟨_, ⟨⟩⟩)
    exact ⟨h.now, le_refl _⟩
  case testing =>
    split_ifs
    · exact h.dispatch nofun h.queue rfl rfl
    · exact h.dispatch hmoments h.queue rfl rfl
  case acquiring =>
    split_ifs
    · exact h.dispatch hmoments h.queue rfl rfl
    · exact h.dispatch nofun h.queue rfl rfl
  case holding => exact h.dispatch hmoments h.queue rfl rfl
  case putting =>
    split_ifs
    · refine h.dispatch nofun (fun j hj => ?_) rfl rfl
      rcases List.mem_append.mp hj with hj | hj
      · exact h.queue j hj
      · obtain rfl : j = job := List.mem_singleton.mp hj
        exact hmoments _ List.mem_cons_self
    · exact h.dispatch nofun h.queue rfl rfl
  case returned => exact h
  all_goals
    try split_ifs
    all_goals exact h.dispatch nofun h.queue rfl rfl

/-- A worker moves on with what is within the time. -/
lemma InTime.move (h : InTime probe t s) {i : Fin probe.workers} {w : Worker}
    (hw : HeldInTime probe.epochMonotonic t w) :
    InTime probe t { s with pool := Function.update s.pool i w } where
  now := h.now
  dispatcher := h.dispatcher
  queue := h.queue
  pool j := by
    rcases eq_or_ne j i with rfl | hne
    · simpa using hw
    · simpa [Function.update_of_ne hne] using h.pool j
  ordered := h.ordered
  started := h.started
  classified := h.classified

/-- **Step lemma of a worker**: a write completes after it was dispatched. -/
lemma inTime_worker (h : InTime probe t s) {r : Reading} (hnow : t ≤ r.now) (hr : Answered r)
    (i : Fin probe.workers) : InTime probe r.now (workerEffect probe s i r) := by
  have h := h.mono hnow
  have hpool := h.pool i
  unfold workerEffect
  rcases hw : s.pool i with _ | _ | job | ⟨job, outcome, detail, completed⟩ |
    ⟨job, outcome, detail, completed⟩ | _ | _
  all_goals rw [hw] at hpool; dsimp only
  case checking =>
    split_ifs
    · exact h.move trivial
    · exact h.move trivial
  case getting =>
    split
    · exact h.move trivial
    · next job rest hqueue =>
      have hjobs := h.queue
      rw [hqueue] at hjobs
      have hrest : InTime probe r.now { s with queue := rest } :=
        h.dispatch h.dispatcher (fun j hj => hjobs j (List.mem_cons_of_mem _ hj)) rfl rfl
      exact hrest.move (hjobs job List.mem_cons_self)
  case attempting => exact h.move ⟨hpool.1, hpool.2, hr.mem⟩
  case attempted =>
    split_ifs
    · exact (h.dispatch (v := noteLatency s _) h.dispatcher h.queue rfl rfl).move hpool
    · exact h.move hpool
  case noted =>
    obtain ⟨hstart, horder, hknown⟩ := hpool
    have hmoved := h.move (i := i) (w := .recorded) trivial
    refine ⟨hmoved.now, hmoved.dispatcher, hmoved.queue, hmoved.pool, ?_, ?_, ?_⟩
    · intro a ha
      rcases List.mem_append.mp ha with ha | ha
      · exact h.ordered a ha
      · rw [List.mem_singleton.mp ha]
        exact sub_le_sub_right horder _
    · intro a ha
      rcases List.mem_append.mp ha with ha | ha
      · exact h.started a ha
      · rw [List.mem_singleton.mp ha]
        exact sub_nonneg.mpr hstart
    · intro a ha
      rcases List.mem_append.mp ha with ha | ha
      · exact h.classified a ha
      · rw [List.mem_singleton.mp ha]
        exact hknown
  case recorded =>
    exact (h.dispatch (v := { s with idle := s.idle + 1 }) h.dispatcher h.queue rfl rfl).move trivial
  case exited => exact h

/-- **Run lemma**: what the threads hold and have recorded stays within the time. -/
lemma inTime_run {as : List (Action probe.workers)} {v : State probe.workers}
    (hrun : run (step probe) s as = some v) (horder : InOrder t as) (hanswers : Answers as)
    (h : InTime probe t s) : ∃ u, InTime probe u v := by
  induction as generalizing s t with
  | nil =>
    rw [run_nil, Option.some.injEq] at hrun
    exact ⟨t, hrun ▸ h⟩
  | cons a as ih =>
    obtain ⟨s', hs', hrest⟩ := run_cons.mp hrun
    obtain ⟨-, rfl⟩ := guarded_eq_some.mp hs'
    have hlater : Answers as := fun i r hmem => hanswers i r (List.mem_cons_of_mem _ hmem)
    cases a with
    | setStop =>
      exact ih hrest horder hlater (h.dispatch h.dispatcher h.queue rfl rfl)
    | dispatcher r =>
      obtain ⟨hnow, hafter, horder⟩ := horder
      exact ih hrest horder hlater ((inTime_dispatcher h hnow).mono hafter)
    | worker i r =>
      obtain ⟨hnow, hafter, horder⟩ := horder
      have hr := hanswers i r List.mem_cons_self
      exact ih hrest horder hlater ((inTime_worker h hnow hr i).mono hafter)

lemma recorded_of_run {as : List (Action probe.workers)}
    (hrun : run (step probe) (init probe.workers) as = some s)
    (horder : InOrder probe.epochMonotonic as) (hanswers : Answers as) : Recorded s.attempts := by
  obtain ⟨u, hu⟩ := inTime_run hrun horder hanswers inTime_init
  have hconserved := (run_preserves (fun _ _ _ => accounted_step) hrun accounted_init).conserved
  exact ⟨hconserved.recordedOnce, hu.ordered, hu.started, hu.classified⟩

/-- **The log of a run is consistent**: over every interleaving of the dispatcher and the
workers the report on the rows they leave says nothing but what became of the writes, and it
passes exactly if a write was served. -/
theorem validateProbe_of_run {as : List (Action probe.workers)}
    (hrun : run (step probe) (init probe.workers) as = some s)
    (horder : InOrder probe.epochMonotonic as) (hanswers : Answers as) :
    (validateProbe (logOf s.attempts)).findings =
      (if s.attempts = [] then [emptyFinding] else outcomeFindings s.attempts) ∧
    ((validateProbe (logOf s.attempts)).ok = true ↔ ∃ a ∈ s.attempts, a.served = true) := by
  have hrecorded := recorded_of_run hrun horder hanswers
  exact ⟨validateProbe_recorded hrecorded, ok_recorded hrecorded⟩

def cancellation : Raised := ⟨"QueryCanceled", "canceling statement due to statement timeout"⟩

/-- One write served, and one canceled by the server while it was in the hands of the other
worker. -/
def canceledRun : List (Action 2) :=
  let moment (t : ℚ) : Reading := { now := t, later := t }
  let dispatch (t : ℚ) : List (Action 2) := List.replicate 7 (.dispatcher (moment t))
  let canceled := classify cancellation
  let second : Fin 2 := Fin.last 1
  let first := second.rev
  [.worker first (moment 0), .worker second (moment 0)] ++ dispatch (1 / 10) ++
    [.worker first (moment (1 / 10))] ++ dispatch (1 / 5) ++ [.worker second (moment (1 / 5))] ++
    List.replicate 3 (.worker first
      { moment (3 / 10) with tsUtc := "2026-09-08T02:00:08.300000Z" }) ++
    List.replicate 3 (.worker second
      { moment 5 with
        outcome := canceled.1, detail := canceled.2, tsUtc := "2026-09-08T02:00:13.000000Z" })

lemma answers_canceledRun : Answers canceledRun := by
  intro i r hmem
  simp only [canceledRun, List.append_assoc, List.mem_append, List.mem_cons, List.not_mem_nil,
    or_false, List.mem_replicate, Action.worker.injEq, reduceCtorEq, and_false, false_or] at hmem
  rcases hmem with (⟨-, rfl⟩ | ⟨-, rfl⟩) | ⟨-, rfl⟩ | ⟨-, rfl⟩ | ⟨-, -, rfl⟩ | ⟨-, -, rfl⟩
  all_goals first | exact Or.inl rfl | exact Or.inr ⟨cancellation, rfl⟩

theorem canceledRun_validates : ∃ s, run (step twoWorkers) (init 2) canceledRun = some s ∧
    s.attempts.map ProbeAttempt.outcome = ["ok", "timeout"] ∧
    (validateProbe (logOf s.attempts)).ok = true := by
  have hmap : (run (step twoWorkers) (init 2) canceledRun).map
      (fun s => s.attempts.map ProbeAttempt.outcome) = some ["ok", "timeout"] := by
    decide +kernel
  obtain ⟨s, hs, hattempts⟩ := Option.map_eq_some_iff.mp hmap
  have horder : InOrder 0 canceledRun := by decide +kernel
  have hok := (validateProbe_of_run hs horder answers_canceledRun).2
  refine ⟨s, hs, hattempts, hok.mpr ?_⟩
  have hmem : "ok" ∈ s.attempts.map ProbeAttempt.outcome := by simp [hattempts]
  obtain ⟨a, ha, houtcome⟩ := List.mem_map.mp hmem
  exact ⟨a, ha, by simp [ProbeAttempt.served, houtcome]⟩

end CrdbLab.ProbeLog
