import CrdbLab.AgentReader
import Mathlib.Data.List.Basic

/-!
What is left of the agent's output.

The reader keeps the attempts that are well formed, each on the run's clock by the epoch
accepted last before it. It does so to the end of the output unless a line makes a handler
raise what none catches, and then it reads no further.
-/

namespace CrdbLab.AgentAttempts

open CrdbLab.Lib.Extended CrdbLab.Lib.Numeral CrdbLab.Lib.Effects CrdbLab.AgentReader

variable (lib : Library) (epochUtc : String)

/-! ### What the lines mean -/

def RemoteAttempt.shift (skew : ℚ) (a : RemoteAttempt) : RemoteAttempt :=
  { a with
    dispatchOffsetS := a.dispatchOffsetS + .finite skew
    completeOffsetS := a.completeOffsetS + .finite skew }

/-- The attempt of a row on the agent's own clock, if the row is well formed: integers in
`seq_id` and `worker`, numbers in both offsets, and an outcome. -/
def wellFormed? (row : Fields) : Option RemoteAttempt :=
  match (intItem row "seq_id").toOption, (floatItem row "dispatch_offset_s").toOption,
    (floatItem row "complete_offset_s").toOption, field? row "outcome",
    (intItem row "worker").toOption with
  | some seqId, some dispatch, some complete, some outcome, some worker =>
    some
      { seqId := seqId
        dispatchOffsetS := dispatch
        completeOffsetS := complete
        outcome := lib.str outcome
        worker := worker
        detail := textOf lib row "detail"
        tsUtc := textOf lib row "ts_utc" }
  | _, _, _, _, _ => none

/-- The difference of the epochs that a start line is accepted with. -/
def epochOf (line : String) : Option ℚ :=
  match eventOf lib line with
  | .start payload => (skewOf lib epochUtc (textOf lib payload "epoch_utc")).toOption
  | _ => none

/-- The difference accepted last. -/
def lastEpoch (lines : List String) : Option ℚ := (lines.filterMap (epochOf lib epochUtc)).getLast?

def rowOf (line : String) : Option RemoteAttempt :=
  match eventOf lib line with
  | .attempt row => wellFormed? lib row
  | _ => none

/-- What a line leaves after the lines before it. -/
def placed (before : List String) (line : String) : Option RemoteAttempt :=
  (lastEpoch lib epochUtc before).bind fun skew => (rowOf lib line).map (RemoteAttempt.shift skew)

/-- The well-formed attempts that came after an accepted start line, each shifted by the
difference accepted last before it, in the order of arrival. -/
def expected (lines : List String) : List RemoteAttempt :=
  (List.range lines.length).filterMap fun i =>
    lines[i]?.bind fun line => placed lib epochUtc (lines.take i) line

lemma expected_snoc (lines : List String) (line : String) :
    expected lib epochUtc (lines ++ [line]) =
      expected lib epochUtc lines ++ (placed lib epochUtc lines line).toList := by
  have hbefore : ∀ i ∈ List.range lines.length,
      ((lines ++ [line])[i]?.bind fun l => placed lib epochUtc ((lines ++ [line]).take i) l) =
        lines[i]?.bind fun l => placed lib epochUtc (lines.take i) l := by
    intro i hi
    have hlt := List.mem_range.mp hi
    rw [List.getElem?_append_left hlt, List.take_append_of_le_length hlt.le]
  have hlast : ((lines ++ [line])[lines.length]?.bind fun l =>
      placed lib epochUtc ((lines ++ [line]).take lines.length) l) =
        placed lib epochUtc lines line := by
    simp
  unfold expected
  rw [List.length_append, List.length_singleton, List.range_succ, List.filterMap_append,
    List.filterMap_congr hbefore]
  congr 1
  simp only [List.filterMap_cons, List.filterMap_nil, hlast]
  cases placed lib epochUtc lines line <;> rfl

lemma lastEpoch_snoc (lines : List String) (line : String) :
    lastEpoch lib epochUtc (lines ++ [line]) =
      (epochOf lib epochUtc line).or (lastEpoch lib epochUtc lines) := by
  unfold lastEpoch
  rw [List.filterMap_append]
  cases h : epochOf lib epochUtc line with
  | none => simp [h]
  | some skew => simp [h]

/-! ### The lines that end the reading -/

/-- The first field of a row that does not convert is out of the range of its type. -/
def Overflowing (row : Fields) : Prop :=
  InfiniteField row "seq_id" ∨
  (∃ n, intItem row "seq_id" = .ok n) ∧
    (HugeField row "dispatch_offset_s" ∨
    (∃ x, floatItem row "dispatch_offset_s" = .ok x) ∧
      (HugeField row "complete_offset_s" ∨
      (∃ x, floatItem row "complete_offset_s" = .ok x) ∧
        field? row "outcome" ≠ none ∧ InfiniteField row "worker"))

/-- Both epochs are instants, but only one of them has an offset from UTC. -/
def MixedEpochs (payload : Fields) : Prop :=
  ∃ agent harness, parseUtc lib (textOf lib payload "epoch_utc") = .ok agent ∧
    parseUtc lib epochUtc = .ok harness ∧ agent.sub harness = .error .typeError

/-- The field is set to what is no integer. -/
def BadField (summary : Fields) (key : String) : Prop :=
  ∃ value, field? summary key = some value ∧ value.truthy = true ∧ ∃ e, value.toInt = .error e

/-- A counter of the summary is no integer. -/
def BadCounter (payload : Fields) : Prop :=
  ∃ summary, field? payload "summary" = some (.object summary) ∧
    ∃ key ∈ ["ticks", "dispatch_saturation", "ticks_spaced_out"], BadField summary key

/-- The line ends the reading after the lines before it. -/
def EndsReading (before : List String) (line : String) : Prop :=
  match eventOf lib line with
  | .nothing => False
  | .tooDeep => True
  | .start payload => MixedEpochs lib epochUtc payload
  | .stop payload => BadCounter payload
  | .attempt row => lastEpoch lib epochUtc before ≠ none ∧ Overflowing row

/-! ### The handlers -/

/-- A row gives its attempt, is left out, or raises what is not caught. -/
lemma attemptOf_cases (row : Fields) (skew : ℚ) :
    (∃ a, wellFormed? lib row = some a ∧ ¬ Overflowing row ∧
      attemptOf lib row skew = .ok (RemoteAttempt.shift skew a)) ∨
    (wellFormed? lib row = none ∧ ¬ Overflowing row ∧
      ∃ e, attemptOf lib row skew = .error e ∧ caught e = true) ∨
    (Overflowing row ∧ attemptOf lib row skew = .error .overflowError) := by
  unfold attemptOf wellFormed? Overflowing
  rcases intItem_cases row "seq_id" with ⟨⟨seqId, h1⟩, hi1⟩ | ⟨e, h1, he, hi1⟩ | ⟨h1, hi1⟩
  rotate_left
  · simp [h1, hi1, he, bind, Except.bind, Except.toOption]
  · simp [h1, hi1, bind, Except.bind, Except.toOption]
  rcases floatItem_cases row "dispatch_offset_s" with ⟨⟨dispatch, h2⟩, hi2⟩ | ⟨e, h2, he, hi2⟩ |
    ⟨h2, hi2⟩
  rotate_left
  · simp [h1, hi1, h2, hi2, he, bind, Except.bind, Except.toOption]
  · simp [h1, hi1, h2, hi2, bind, Except.bind, Except.toOption]
  rcases floatItem_cases row "complete_offset_s" with ⟨⟨complete, h3⟩, hi3⟩ | ⟨e, h3, he, hi3⟩ |
    ⟨h3, hi3⟩
  rotate_left
  · simp [h1, hi1, h2, hi2, h3, hi3, he, bind, Except.bind, Except.toOption]
  · simp [h1, hi1, h2, hi2, h3, hi3, bind, Except.bind, Except.toOption]
  cases h4 : field? row "outcome" with
  | none =>
    simp [h1, hi1, h2, hi2, h3, hi3, h4, item, caught, bind, Except.bind, Except.toOption]
  | some outcome =>
    rcases intItem_cases row "worker" with ⟨⟨worker, h5⟩, hi5⟩ | ⟨e, h5, he, hi5⟩ | ⟨h5, hi5⟩
    · simp [h1, hi1, h2, hi2, h3, hi3, h4, h5, hi5, item, RemoteAttempt.shift, bind, Except.bind,
        pure, Except.pure, Except.toOption]
    · simp [h1, hi1, h2, hi2, h3, hi3, h4, h5, hi5, he, item, bind, Except.bind, Except.toOption]
    · simp [h1, hi1, h2, hi2, h3, hi3, h4, h5, hi5, item, bind, Except.bind, Except.toOption]

lemma skewOf_cases (payload : Fields) :
    (∃ skew, skewOf lib epochUtc (textOf lib payload "epoch_utc") = .ok skew ∧
      ¬ MixedEpochs lib epochUtc payload) ∨
    (skewOf lib epochUtc (textOf lib payload "epoch_utc") = .error .valueError ∧
      ¬ MixedEpochs lib epochUtc payload) ∨
    (skewOf lib epochUtc (textOf lib payload "epoch_utc") = .error .typeError ∧
      MixedEpochs lib epochUtc payload) := by
  have hparse : ∀ stamp, (∃ t, parseUtc lib stamp = .ok t) ∨
      parseUtc lib stamp = .error .valueError := by
    intro stamp
    unfold parseUtc
    split
    · exact Or.inl ⟨_, rfl⟩
    · exact Or.inr rfl
  unfold skewOf MixedEpochs
  rcases hparse (textOf lib payload "epoch_utc") with ⟨agent, ha⟩ | ha
  · rcases hparse epochUtc with ⟨harness, hh⟩ | hh
    · cases agent <;> cases harness <;> simp [ha, hh, Stamp.sub, bind, Except.bind]
    · simp [ha, hh, bind, Except.bind]
  · simp [ha, bind, Except.bind]

/-- The start handler accepts the epoch, records that it could not, or raises. -/
lemma onStart_cases (payload : Fields) (r : Reader) :
    (¬ MixedEpochs lib epochUtc payload ∧
      ∃ t, outcome (onStart lib epochUtc payload) r = (.ok (), t) ∧ t.attempts = r.attempts ∧
        t.epochSkewS =
          ((skewOf lib epochUtc (textOf lib payload "epoch_utc")).toOption).or r.epochSkewS) ∨
    (MixedEpochs lib epochUtc payload ∧
      ∃ e t, outcome (onStart lib epochUtc payload) r = (.error e, t)) := by
  unfold onStart
  rcases skewOf_cases lib epochUtc payload with ⟨skew, hskew, hmixed⟩ | ⟨hskew, hmixed⟩ |
    ⟨hskew, hmixed⟩
  · simp [hskew, hmixed, Except.toOption]
  · simp [hskew, hmixed, Except.toOption]
  · simp [hskew, hmixed]

/-- A counter is read, or it is set and not an integer. -/
lemma counter_cases (summary : Fields) (key : String) :
    ((∃ n, counter summary key = .ok n) ∧ ¬ BadField summary key) ∨
    (∃ e, counter summary key = .error e) ∧ BadField summary key := by
  unfold counter BadField
  cases hf : field? summary key with
  | none => simp
  | some value =>
    by_cases ht : value.truthy = true
    · cases hi : value.toInt with
      | ok n => simp [ht, hi]
      | error e => simp [ht, hi]
    · simp [ht]

lemma outcome_reportError (payload : Fields) (r : Reader) :
    ∃ t, outcome (reportError lib payload) r = (.ok (), t) ∧ t.attempts = r.attempts ∧
      t.epochSkewS = r.epochSkewS := by
  unfold reportError
  cases field? payload "error" with
  | none => exact ⟨r, rfl, rfl, rfl⟩
  | some value => by_cases ht : value.truthy = true <;> simp [ht]

/-- The stop handler leaves the attempts and the epoch as they are, or raises. -/
lemma onStop_cases (payload : Fields) (r : Reader) :
    (¬ BadCounter payload ∧
      ∃ t, outcome (onStop lib payload) r = (.ok (), t) ∧ t.attempts = r.attempts ∧
        t.epochSkewS = r.epochSkewS) ∨
    (BadCounter payload ∧ ∃ e t, outcome (onStop lib payload) r = (.error e, t)) := by
  unfold onStop BadCounter
  obtain ⟨t, hreport, hattempts, hskew⟩ := outcome_reportError lib payload r
  rw [outcome_bind_ok hreport, ← hattempts, ← hskew]
  unfold keepSummary
  split
  · rename_i summary hsummary
    rcases counter_cases summary "ticks" with ⟨⟨n, h1⟩, hb1⟩ | ⟨⟨e, h1⟩, hb1⟩
    · rcases counter_cases summary "dispatch_saturation" with ⟨⟨m, h2⟩, hb2⟩ | ⟨⟨e, h2⟩, hb2⟩
      · rcases counter_cases summary "ticks_spaced_out" with ⟨⟨k, h3⟩, hb3⟩ | ⟨⟨e, h3⟩, hb3⟩
        · simp [hsummary, h1, h2, h3, hb1, hb2, hb3, outcome_bind]
        · simp [hsummary, h1, h2, h3, hb1, hb2, hb3, outcome_bind]
      · simp [hsummary, h1, h2, hb1, hb2, outcome_bind]
    · simp [hsummary, h1, hb1, outcome_bind]
  · rename_i hnone
    refine Or.inl ⟨?_, t, rfl, rfl, rfl⟩
    rintro ⟨summary, hsummary, -⟩
    exact hnone summary hsummary

/-- The attempt handler keeps a well-formed attempt once there is an epoch, or raises. -/
lemma onAttempt_cases (row : Fields) (r : Reader) :
    (¬ (r.epochSkewS ≠ none ∧ Overflowing row) ∧
      ∃ t, outcome (onAttempt lib row) r = (.ok (), t) ∧ t.epochSkewS = r.epochSkewS ∧
        t.attempts = r.attempts ++ (r.epochSkewS.bind fun skew =>
          (wellFormed? lib row).map (RemoteAttempt.shift skew)).toList) ∨
    ((r.epochSkewS ≠ none ∧ Overflowing row) ∧
      ∃ e t, outcome (onAttempt lib row) r = (.error e, t)) := by
  unfold onAttempt
  rw [outcome_get_bind]
  cases hskew : r.epochSkewS with
  | none => exact Or.inl ⟨by simp, r, rfl, hskew, by simp⟩
  | some skew =>
    rcases attemptOf_cases lib row skew with ⟨a, hwell, hover, hok⟩ | ⟨hwell, hover, e, he, hc⟩ |
      ⟨hover, he⟩
    · simp [hwell, hover, hok, hskew]
    · simp [hwell, hover, he, hc, hskew]
    · simp [hover, he, caught]

/-! ### The whole output -/

/-- The reader holds what the lines so far leave. -/
def Holds (before : List String) (r : Reader) : Prop :=
  r.attempts = expected lib epochUtc before ∧ r.epochSkewS = lastEpoch lib epochUtc before

/-- **One line**: what the reader holds goes on to hold, or the line ends the reading. -/
lemma readLine_cases {before : List String} {r : Reader} (hr : Holds lib epochUtc before r)
    (line : String) :
    (¬ EndsReading lib epochUtc before line ∧
      ∃ t, outcome (readLine lib epochUtc line) r = (.ok (), t) ∧
        Holds lib epochUtc (before ++ [line]) t) ∨
    (EndsReading lib epochUtc before line ∧
      ∃ e t, outcome (readLine lib epochUtc line) r = (.error e, t)) := by
  obtain ⟨hattempts, hskew⟩ := hr
  unfold Holds
  rw [expected_snoc, lastEpoch_snoc, ← hattempts, ← hskew]
  unfold EndsReading readLine placed epochOf rowOf
  rw [← hskew]
  cases eventOf lib line with
  | nothing => simp
  | tooDeep => simp
  | start payload =>
    rcases onStart_cases lib epochUtc payload r with ⟨hmixed, t, ht, hat, hsk⟩ | ⟨hmixed, he⟩
    · exact Or.inl ⟨hmixed, t, ht, by simpa using hat, hsk⟩
    · exact Or.inr ⟨hmixed, he⟩
  | stop payload =>
    rcases onStop_cases lib payload r with ⟨hbad, t, ht, hat, hsk⟩ | ⟨hbad, he⟩
    · exact Or.inl ⟨hbad, t, ht, by simpa using hat, by simpa using hsk⟩
    · exact Or.inr ⟨hbad, he⟩
  | attempt row =>
    rcases onAttempt_cases lib row r with ⟨hover, t, ht, hsk, hat⟩ | ⟨hover, he⟩
    · exact Or.inl ⟨hover, t, ht, hat, by simpa using hsk⟩
    · exact Or.inr ⟨hover, he⟩

/-- Reading the lines raises nothing and leaves the expected attempts. -/
def Survives (lines : List String) : Prop :=
  ∃ r, outcome (readStdout lib epochUtc lines) {} = (.ok (), r) ∧
    r.attempts = expected lib epochUtc lines

/-- **When the reader survives the output**: no line ends the reading after the lines before
it. -/
theorem survives_iff (lines : List String) :
    Survives lib epochUtc lines ↔
      ∀ i line, lines[i]? = some line → ¬ EndsReading lib epochUtc (lines.take i) line := by
  have hstart : Holds lib epochUtc [] {} := ⟨rfl, rfl⟩
  rcases forEach_cases (I := Holds lib epochUtc)
    (fun before line r hr => readLine_cases lib epochUtc hr line) hstart lines with
    ⟨hall, r, hr, hattempts, -⟩ | ⟨⟨i, line, hline, hends⟩, e, r, hr⟩
  · exact iff_of_true ⟨r, hr, hattempts⟩ hall
  · refine iff_of_false ?_ fun h => h i line hline hends
    rintro ⟨t, ht, -⟩
    unfold readStdout at ht
    rw [hr] at ht
    cases ht

/-! ### An output that ends the reading -/

def startLine : String :=
  "\x7b\"__agent__\": \"start\", \"epoch_utc\": \"2026-09-08T02:00:08Z\"\x7d"

def infiniteLine : String := "\x7b\"seq_id\": 1e999\x7d"

def attemptLine : String :=
  "\x7b\"seq_id\": 1, \"dispatch_offset_s\": 2, \"complete_offset_s\": 3, " ++
    "\"outcome\": \"ok\", \"worker\": 0\x7d"

/-- A library that decodes these lines and reads their instants as the real one does. -/
def sampleLibrary : Library where
  loads := fun line =>
    if line = startLine then
      .ok (.object [("__agent__", .string "start"),
        ("epoch_utc", .string "2026-09-08T02:00:08Z")])
    else if line = infiniteLine then .ok (.object [("seq_id", .float (.infinite false))])
    else if line = attemptLine then
      .ok (.object [("seq_id", .int 1), ("dispatch_offset_s", .int 2),
        ("complete_offset_s", .int 3), ("outcome", .string "ok"), ("worker", .int 0)])
    else .error .value
  fromisoformat := fun stamp =>
    [("2026-09-08T02:00:00+00:00", Stamp.aware 1788832800),
      ("2026-09-08T02:00:08+00:00", .aware 1788832808)].lookup stamp
  repr := fun _ => ""

/-- After an attempt with an infinite sequence number nothing more is read: the attempt that
follows it is lost. -/
theorem infiniteSeqId_not_survived :
    ¬ Survives sampleLibrary "2026-09-08T02:00:00Z" [startLine, infiniteLine, attemptLine] ∧
    expected sampleLibrary "2026-09-08T02:00:00Z" [startLine, infiniteLine, attemptLine] =
      [⟨1, .finite 10, .finite 11, "ok", 0, "", ""⟩] := by
  refine ⟨?_, by decide +kernel⟩
  rintro ⟨r, hr, -⟩
  have hraise : (outcome (readStdout sampleLibrary "2026-09-08T02:00:00Z"
      [startLine, infiniteLine, attemptLine]) {}).1 = .error .overflowError := by
    decide +kernel
  rw [hr] at hraise
  cases hraise

end CrdbLab.AgentAttempts
