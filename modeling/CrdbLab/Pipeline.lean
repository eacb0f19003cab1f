import CrdbLab.Lib.Effects
import CrdbLab.Lib.KeySort
import Mathlib.Data.String.Basic

/-!
The pipeline that provisions the VMs of each engine, measures on them and takes them down.

Its steps ask the outside: commands, Tailscale calls, SSH helpers, directories, the user. The
outside may answer with any exception, and may press Ctrl-C between any two questions.
-/

namespace CrdbLab.Pipeline

open CrdbLab.Lib.Effects CrdbLab.Lib.KeySort

inductive Engine | cockroachdb | postgresql
  deriving DecidableEq, Repr

def Engine.name : Engine → String
  | .cockroachdb => "cockroachdb"
  | .postgresql => "postgresql"

/-- What can be raised. A `fatal` exception is one that is not an `Exception`. -/
inductive Exn
  | stepFailed (message : String)
  | aborted
  | tailscale (message : String)
  | other (kind message : String)
  | fatal (kind message : String)
  deriving DecidableEq, Repr

/-- `str(err)`. -/
def Exn.str : Exn → String
  | .stepFailed message | .tailscale message | .other _ message | .fatal _ message => message
  | .aborted => ""

inductive OnFailure | ask | destroy | leave
  deriving DecidableEq, Repr

inductive Choice | destroy | leave
  deriving DecidableEq, Repr

structure Args where
  engineList : List Engine
  profile : String
  chaos : Bool
  onFailure : OnFailure
  deriving DecidableEq, Repr

/-- What the outside answers when it is asked. -/
structure Answer where
  abort : Bool := false
  present : Bool := true
  start : Option Exn := none
  stream : Option Exn := none
  status : ℤ := 0
  call : Option Exn := none
  problems : List (String × String) := []
  names : List String := []
  choice : Choice := .leave
  deriving DecidableEq, Repr

/-- The outside: where the repository is and the answers to the questions in turn. -/
structure World where
  repo : String
  answers : ℕ → Answer

/-- What a command does to the VMs. -/
inductive Job
  | apply (e : Engine)
  | destroy (e : Engine)
  | other
  deriving DecidableEq, Repr

/-- An apply that was started, a destroy that completed successfully. -/
inductive Event
  | applied (e : Engine)
  | destroyed (e : Engine)
  deriving DecidableEq, Repr

def Job.onStart : Job → List Event
  | .apply e => [.applied e]
  | _ => []

def Job.onExit (job : Job) (status : ℤ) : List Event :=
  match job with
  | .destroy e => if status = 0 then [.destroyed e] else []
  | _ => []

/-- An exception the outside answered with, and what had happened by then. -/
structure Raise where
  exn : Exn
  cleaning : Bool
  events : List Event
  deriving DecidableEq, Repr

structure Result where
  ok : Bool := false
  error : Option String := none
  bench : Engine → Option String := fun _ => none
  insights : Option String := none
  cleaned : Bool := false
  cleanupCmd : Option String := none

/-- The runner and the flags it shares with the user's side. `events` and `raised` only
record what happened: the runner never looks at them. -/
structure State where
  now : ℕ := 0
  abort : Bool := false
  cleaning : Bool := false
  deployed : Option Engine := none
  proc : Option Job := none
  result : Result := {}
  events : List Event := []
  raised : List Raise := []

def State.setResult (f : Result → Result) (s : State) : State := { s with result := f s.result }

abbrev Step := Comp State Exn

/-- What the user is told to run. -/
def cleanupCommand (engine : Engine) : String :=
  "pipeline/run_all.py --cleanup --engine " ++ engine.name

section Plumbing

variable (world : World)

/-- Asks the outside. Once the user has aborted, the flag stays set. -/
def next : Step Answer := do
  let s ← get
  let answer := world.answers s.now
  modify fun s => { s with now := s.now + 1, abort := s.abort || answer.abort }
  pure answer

/-- An exception of the outside, if it answered with one. -/
def outside : Option Exn → Step Unit
  | none => pure ()
  | some e => do
    modify fun s => { s with raised := s.raised ++ [⟨e, s.cleaning, s.events⟩] }
    throw e

def raiseIf (c : Bool) (e : Exn) : Step Unit := if c then throw e else pure ()

def record (events : List Event) : Step Unit :=
  modify fun s => { s with events := s.events ++ events }

def checkAbort : Step Unit := do
  let _ ← next world
  let s ← get
  raiseIf (s.abort && !s.cleaning) .aborted

/-- Runs a command to its end. -/
def cmd (argv : List String) (job : Job := .other) : Step Unit := do
  checkAbort world
  let answer ← next world
  outside answer.start
  modify fun s => { s with proc := some job }
  record job.onStart
  outside answer.stream
  record (job.onExit answer.status)
  modify fun s => { s with proc := none }
  checkAbort world
  raiseIf (answer.status ≠ 0) (.stepFailed ("`" ++ " ".intercalate argv ++
    "` exited with status " ++ toString answer.status))

/-- A Tailscale call or an SSH helper. -/
def call : Step Answer := do
  let answer ← next world
  outside answer.call
  pure answer

def beginStep : Step Unit := checkAbort world

/-- The last of the names that were not there before. -/
def newest (before names : List String) : Option String :=
  (sortOn id (names.filter (· ∉ before))).getLast?

end Plumbing

section Blocks

variable (world : World)

def logout : Step Unit := do
  let _ ← call world

def destroy (e : Engine) : Step Unit := do
  cmd world ["terraform", "destroy", "-auto-approve", "-input=false",
    "-var=database_engine=" ++ e.name] (.destroy e)
  modify fun s => { s with deployed := none }

def purge : Step Unit := do
  checkAbort world
  let _ ← call world

def waitForVms : Step Unit := do
  let answer ← call world
  checkAbort world
  raiseIf (answer.problems ≠ []) (.stepFailed ("VMs not ready: " ++
    "; ".intercalate (answer.problems.map fun p => p.1 ++ ": " ++ p.2) ++
    "  (see /var/log/cloud-init-output.log on the node)"))

end Blocks

section Steps

variable (world : World) (args : Args)

/-- `if not (TF_DIR / ".terraform").exists(): ...`. -/
def initTerraform : Step Unit := do
  let initialised ← next world
  if initialised.present then pure () else cmd world ["terraform", "init", "-input=false"]

def preflight : Step Unit := do
  beginStep world
  let harness ← next world
  raiseIf (!harness.present) (.stepFailed (world.repo ++ "/.venv/bin/crdblab not found; " ++
    "run: python3 -m venv .venv && .venv/bin/python -m pip install -e \".[dev]\""))
  forEach (fun tool => do
    let answer ← next world
    raiseIf (!answer.present) (.stepFailed ("`" ++ tool ++ "` is not on PATH")))
    ["terraform", "tailscale", "ssh"]
  cmd world ["tailscale", "status", "--peers=false"]
  initTerraform world
  purge world

def teardown (e : Engine) : Step Unit := do
  beginStep world
  logout world
  beginStep world
  destroy world e
  beginStep world
  purge world

/-- `result[f"bench:{e}"] = new[-1]`, if there is a new one. -/
def noteBench (e : Engine) (before names : List String) (r : Result) : Result :=
  match newest before names with
  | some name => { r with bench := fun e' => if e' = e then some name else r.bench e' }
  | none => r

def oneEngine (e : Engine) : Step Unit := do
  beginStep world
  cmd world ["terraform", "plan", "-input=false", "-out", "plan.out",
    "-var=database_engine=" ++ e.name]
  beginStep world
  -- from here on a failure may leave VMs behind
  modify fun s => { s with deployed := some e }
  cmd world ["terraform", "apply", "-input=false", "plan.out"] (.apply e)
  beginStep world
  waitForVms world
  beginStep world
  let before ← call world
  cmd world (["./run-experiment.sh", "--engine", e.name, "--profile", args.profile] ++
    if args.chaos then [] else ["--no-chaos"])
  let found ← call world
  modify (State.setResult (noteBench e before.names found.names))
  teardown world e

def compareEngines (crdb pg : String) : Step Unit :=
  except (cmd world [".venv/bin/crdblab", "analyze", "engine-comparison", "--crdb", crdb,
    "--pg", pg]) fun
    | .stepFailed _ => pure ()
    | err => throw err

def noteInsights (before names : List String) (r : Result) : Result :=
  match newest before names with
  | some name => { r with insights := some ("insights/" ++ name) }
  | none => r

def insights : Step Unit := do
  beginStep world
  let before ← call world
  cmd world ["./generate_insights.sh", "--profile", args.profile]
  let found ← call world
  modify (State.setResult (noteInsights before.names found.names))
  let s ← get
  match s.result.bench .cockroachdb, s.result.bench .postgresql with
  | some crdb, some pg => compareEngines world crdb pg
  | _, _ => pure ()

end Steps

section Failure

variable (world : World) (args : Args)

/-- The body of the cleanup. -/
def takeDown (engine : Engine) : Step Unit := do
  logout world
  destroy world engine
  purge world
  modify (State.setResult fun r => { r with cleaned := true })

def cleanup (engine : Engine) : Step Unit := do
  modify fun s => { s with cleaning := true }
  lastly
    (except (takeDown world engine) fun
      | .stepFailed _ | .tailscale _ =>
        modify (State.setResult fun r => { r with cleanupCmd := some (cleanupCommand engine) })
      | err => throw err)
    (modify fun s => { s with cleaning := false })

/-- Waits for the command that was under way, if it still is. -/
def waitProc : Step Unit := do
  let s ← get
  match s.proc with
  | none => pure ()
  | some job => do
    let answer ← next world
    record (job.onExit answer.status)

def Exn.reason : Exn → String
  | .aborted => "aborted by you"
  | err => err.str

/-- What becomes of VMs that may still be up. -/
def choose : Step Choice := do
  match args.onFailure with
  | .destroy => pure .destroy
  | .leave => pure .leave
  | .ask => do
    let answer ← next world
    pure answer.choice

def settleVms (engine : Engine) : Step Unit := do
  let choice ← choose world args
  match choice with
  | .destroy => cleanup world engine
  | .leave =>
    modify (State.setResult fun r => { r with cleanupCmd := some (cleanupCommand engine) })

def fail (err : Exn) : Step Unit := do
  modify (State.setResult fun r => { r with error := some err.reason })
  waitProc world
  let s ← get
  match s.deployed with
  | none => pure ()
  | some engine => settleVms world args engine

/-- The steps in order. -/
def steps : Step Unit := do
  preflight world
  forEach (oneEngine world args) args.engineList
  insights world args
  modify (State.setResult fun r => { r with ok := true })

def run : Step Unit :=
  except (steps world args) fun
    | .other kind message => fail world args
        (.stepFailed ("internal error: " ++ kind ++ ": " ++ message))
    | .fatal kind message => throw (.fatal kind message)
    | err => fail world args err

/-- The runner as the run leaves it, whether it returns or raises. -/
def finish : State := (outcome (run world args) {}).2

end Failure

end CrdbLab.Pipeline
