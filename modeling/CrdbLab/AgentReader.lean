import CrdbLab.Lib.Effects
import CrdbLab.Lib.Numeral

/-!
The reader of the remote agent's output.

Each line is decoded and handled by what it is: the start line gives the agent's epoch, the
stop line its counters, and any other object an attempt. The handlers convert what they find
and catch some of what the conversions raise.
-/

namespace CrdbLab.AgentReader

open CrdbLab.Lib.Extended CrdbLab.Lib.Numeral CrdbLab.Lib.Effects

/-- A decoded value. -/
inductive Json
  | null
  | bool (b : Bool)
  | int (n : ℤ)
  | float (x : Number)
  | string (s : String)
  | array (values : List Json)
  | object (fields : List (String × Json))

abbrev Fields := List (String × Json)

/-- `fields.get(key)`. -/
def field? (fields : Fields) (key : String) : Option Json := fields.lookup key

def Json.truthy : Json → Bool
  | .null => false
  | .bool b => b
  | .int n => n != 0
  | .float x => x != .finite 0
  | .string s => s != ""
  | .array values => !values.isEmpty
  | .object fields => !fields.isEmpty

inductive Raised | keyError | typeError | valueError | overflowError | recursionError
  deriving DecidableEq, Repr

/-- `int(value)`. -/
def Json.toInt : Json → Except Raised ℤ
  | .int n => .ok n
  | .bool b => .ok (if b then 1 else 0)
  | .float (.finite x) => .ok (Number.truncate x)
  | .float (.infinite _) => .error .overflowError
  | .float .nan => .error .valueError
  | .string s =>
    match Lib.Numeral.int s with
    | some n => .ok n
    | none => .error .valueError
  | _ => .error .typeError

/-- `float(value)`. -/
def Json.toFloat : Json → Except Raised Number
  | .int n => if |(n : ℚ)| < Number.overflowBound then .ok (.finite n) else .error .overflowError
  | .bool b => .ok (.finite (if b then 1 else 0))
  | .float x => .ok x
  | .string s =>
    match Lib.Numeral.float s with
    | some x => .ok x
    | none => .error .valueError
  | _ => .error .typeError

/-- An instant, in seconds, with an offset from UTC or without one. -/
inductive Stamp
  | naive (t : ℚ)
  | aware (t : ℚ)
  deriving DecidableEq, Repr

/-- The seconds between two instants of the same kind. -/
def Stamp.sub : Stamp → Stamp → Except Raised ℚ
  | .naive t, .naive u => .ok (t - u)
  | .aware t, .aware u => .ok (t - u)
  | _, _ => .error .typeError

/-- Why a line is not decoded. -/
inductive LoadError | value | recursion
  deriving DecidableEq, Repr

/-- What the reader uses of its language's library. -/
structure Library where
  loads : String → Except LoadError Json
  fromisoformat : String → Option Stamp
  repr : Json → String

def Library.str (lib : Library) : Json → String
  | .string s => s
  | value => lib.repr value

/-- One attempt as received. -/
structure RemoteAttempt where
  seqId : ℤ
  dispatchOffsetS : Number
  completeOffsetS : Number
  outcome : String
  worker : ℤ
  detail : String
  tsUtc : String
  deriving DecidableEq, Repr

structure Reader where
  attempts : List RemoteAttempt := []
  error : Option String := none
  epochSkewS : Option ℚ := none
  agentEpochUtc : Option String := none
  agentSummary : Option Fields := none
  ticks : ℤ := 0
  dispatchSaturation : ℤ := 0
  ticksSpacedOut : ℤ := 0

/-- What tells the agent's own lines from attempts. -/
def agentResultKey : String := "__agent__"

section Handlers

variable (lib : Library) (epochUtc : String)

/-- `stamp.replace("Z", "+00:00")`. -/
def withOffset (stamp : String) : String :=
  String.ofList (stamp.toList.flatMap fun c => if c = 'Z' then "+00:00".toList else [c])

def parseUtc (stamp : String) : Except Raised Stamp :=
  match lib.fromisoformat (withOffset stamp) with
  | some t => .ok t
  | none => .error .valueError

/-- `str(fields.get(key) or "")`. -/
def textOf (fields : Fields) (key : String) : String :=
  match field? fields key with
  | some value => if value.truthy then lib.str value else ""
  | none => ""

/-- The difference of the two epochs. -/
def skewOf (agentEpoch : String) : Except Raised ℚ := do
  let agent ← parseUtc lib agentEpoch
  let harness ← parseUtc lib epochUtc
  agent.sub harness

def onStart (payload : Fields) : Comp Reader Raised Unit := do
  let agentEpoch := textOf lib payload "epoch_utc"
  modify fun r => { r with agentEpochUtc := some agentEpoch }
  match skewOf lib epochUtc agentEpoch with
  | .ok skew => modify fun r => { r with epochSkewS := some skew }
  | .error .valueError =>
    modify fun r =>
      { r with
        error := some ("the agent did not report a parseable epoch, so its offsets cannot be " ++
          "placed on the run's clock") }
  | .error e => throw e

/-- `int(summary.get(key) or 0)`. -/
def counter (summary : Fields) (key : String) : Except Raised ℤ :=
  match field? summary key with
  | some value => if value.truthy then value.toInt else .ok 0
  | none => .ok 0

/-- The agent's own error, if it reports one. -/
def reportError (payload : Fields) : Comp Reader Raised Unit :=
  match field? payload "error" with
  | some value =>
    if value.truthy then
      modify fun r => { r with error := some ("agent: " ++ lib.str value) }
    else pure ()
  | none => pure ()

/-- The agent's summary, and the counters only the agent can observe. -/
def keepSummary (payload : Fields) : Comp Reader Raised Unit :=
  match field? payload "summary" with
  | some (.object summary) => do
    modify fun r => { r with agentSummary := some summary }
    let ticks ← raising (counter summary "ticks")
    modify fun r => { r with ticks := ticks }
    let saturation ← raising (counter summary "dispatch_saturation")
    modify fun r => { r with dispatchSaturation := saturation }
    let spacedOut ← raising (counter summary "ticks_spaced_out")
    modify fun r => { r with ticksSpacedOut := spacedOut }
  | _ => pure ()

def onStop (payload : Fields) : Comp Reader Raised Unit := do
  reportError lib payload
  keepSummary payload

/-- `row[key]`. -/
def item (row : Fields) (key : String) : Except Raised Json :=
  match field? row key with
  | some value => .ok value
  | none => .error .keyError

def intItem (row : Fields) (key : String) : Except Raised ℤ := (item row key).bind Json.toInt

def floatItem (row : Fields) (key : String) : Except Raised Number :=
  (item row key).bind Json.toFloat

/-- The attempt a row gives, its offsets shifted by `skew`. -/
def attemptOf (row : Fields) (skew : ℚ) : Except Raised RemoteAttempt := do
  let seqId ← intItem row "seq_id"
  let dispatch ← floatItem row "dispatch_offset_s"
  let complete ← floatItem row "complete_offset_s"
  let outcome ← item row "outcome"
  let worker ← intItem row "worker"
  return {
    seqId := seqId
    dispatchOffsetS := dispatch + .finite skew
    completeOffsetS := complete + .finite skew
    outcome := lib.str outcome
    worker := worker
    detail := textOf lib row "detail"
    tsUtc := textOf lib row "ts_utc" }

/-- `except (KeyError, TypeError, ValueError)`. -/
def caught : Raised → Bool
  | .keyError | .typeError | .valueError => true
  | .overflowError | .recursionError => false

def onAttempt (row : Fields) : Comp Reader Raised Unit := do
  let r ← get
  match r.epochSkewS with
  | none => pure ()
  | some skew =>
    match attemptOf lib row skew with
    | .ok attempt => modify fun r => { r with attempts := r.attempts ++ [attempt] }
    | .error e => if caught e then pure () else throw e

/-- What a line is to the reader. -/
inductive Event
  | nothing
  | tooDeep
  | start (payload : Fields)
  | stop (payload : Fields)
  | attempt (row : Fields)

def eventOf (line : String) : Event :=
  let line := String.ofList (strip isSpace line.toList)
  if line = "" then .nothing
  else
    match lib.loads line with
    | .error .value => .nothing
    | .error .recursion => .tooDeep
    | .ok (.object payload) =>
      match field? payload agentResultKey with
      | some (.string "start") => .start payload
      | some (.string "stop") => .stop payload
      | _ => .attempt payload
    | .ok _ => .nothing

def readLine (line : String) : Comp Reader Raised Unit :=
  match eventOf lib line with
  | .nothing => pure ()
  | .tooDeep => throw .recursionError
  | .start payload => onStart lib epochUtc payload
  | .stop payload => onStop lib payload
  | .attempt row => onAttempt lib row

def readStdout (lines : List String) : Comp Reader Raised Unit :=
  forEach (readLine lib epochUtc) lines

end Handlers

/-! ### What the conversions raise -/

/-- The field holds an infinite number. -/
def InfiniteField (row : Fields) (key : String) : Prop :=
  ∃ negative, field? row key = some (.float (.infinite negative))

/-- The field holds an integer beyond the range of a float. -/
def HugeField (row : Fields) (key : String) : Prop :=
  ∃ n : ℤ, field? row key = some (.int n) ∧ Number.overflowBound ≤ |(n : ℚ)|

lemma intItem_cases (row : Fields) (key : String) :
    ((∃ n, intItem row key = .ok n) ∧ ¬ InfiniteField row key) ∨
    (∃ e, intItem row key = .error e ∧ caught e = true ∧ ¬ InfiniteField row key) ∨
    (intItem row key = .error .overflowError ∧ InfiniteField row key) := by
  unfold intItem item InfiniteField
  cases hget : field? row key with
  | none => exact Or.inr (Or.inl ⟨.keyError, rfl, rfl, by simp⟩)
  | some value =>
    cases value with
    | int n => exact Or.inl ⟨⟨n, rfl⟩, by simp⟩
    | bool b => exact Or.inl ⟨⟨_, rfl⟩, by simp⟩
    | float x =>
      cases x with
      | finite y => exact Or.inl ⟨⟨_, rfl⟩, by simp⟩
      | infinite negative => exact Or.inr (Or.inr ⟨rfl, negative, rfl⟩)
      | nan => exact Or.inr (Or.inl ⟨.valueError, rfl, rfl, by simp⟩)
    | string s =>
      cases hs : Lib.Numeral.int s with
      | some n => exact Or.inl ⟨⟨n, by simp [Except.bind, Json.toInt, hs]⟩, by simp⟩
      | none =>
        exact Or.inr (Or.inl ⟨.valueError, by simp [Except.bind, Json.toInt, hs], rfl, by simp⟩)
    | null => exact Or.inr (Or.inl ⟨.typeError, rfl, rfl, by simp⟩)
    | array l => exact Or.inr (Or.inl ⟨.typeError, rfl, rfl, by simp⟩)
    | object f => exact Or.inr (Or.inl ⟨.typeError, rfl, rfl, by simp⟩)

lemma floatItem_cases (row : Fields) (key : String) :
    ((∃ x, floatItem row key = .ok x) ∧ ¬ HugeField row key) ∨
    (∃ e, floatItem row key = .error e ∧ caught e = true ∧ ¬ HugeField row key) ∨
    (floatItem row key = .error .overflowError ∧ HugeField row key) := by
  unfold floatItem item HugeField
  cases hget : field? row key with
  | none => exact Or.inr (Or.inl ⟨.keyError, rfl, rfl, by simp⟩)
  | some value =>
    cases value with
    | int n =>
      by_cases hn : |(n : ℚ)| < Number.overflowBound
      · refine Or.inl ⟨⟨.finite n, by simp [Except.bind, Json.toFloat, hn]⟩, ?_⟩
        simpa using hn
      · refine Or.inr (Or.inr ⟨by simp [Except.bind, Json.toFloat, hn], n, rfl, ?_⟩)
        exact not_lt.mp hn
    | bool b => exact Or.inl ⟨⟨_, rfl⟩, by simp⟩
    | float x => exact Or.inl ⟨⟨x, rfl⟩, by simp⟩
    | string s =>
      cases hs : Lib.Numeral.float s with
      | some x => exact Or.inl ⟨⟨x, by simp [Except.bind, Json.toFloat, hs]⟩, by simp⟩
      | none =>
        exact Or.inr (Or.inl ⟨.valueError, by simp [Except.bind, Json.toFloat, hs], rfl, by simp⟩)
    | null => exact Or.inr (Or.inl ⟨.typeError, rfl, rfl, by simp⟩)
    | array l => exact Or.inr (Or.inl ⟨.typeError, rfl, rfl, by simp⟩)
    | object f => exact Or.inr (Or.inl ⟨.typeError, rfl, rfl, by simp⟩)

end CrdbLab.AgentReader
