import CrdbLab.Lib.Runs
import CrdbLab.Lib.Rounding

/-!
The injection timer of a chaos run beside the main thread that reads what it did.

The timer waits for the generator's first sample and for the deadline, calls `inject_fault`,
and fills the dictionary `injected` statement by statement. The main thread reads the stream
to its end, joins the timer for at most five seconds, and then builds the record of the run
from whatever the dictionary holds at each of its reads.
-/

namespace CrdbLab.InjectionTimer

open CrdbLab.Lib.Runs CrdbLab.Lib.Rounding

inductive Mode where
  | dead
  | recover
  deriving DecidableEq, Repr

/-- What a run is started with. -/
structure Chaos where
  mode : Mode
  injectAtS : ℚ
  tZero : ℚ
  deriving DecidableEq, Repr

/-- The entries of `injected` that are read; a missing one reads as `None`. -/
structure Injected where
  atMonotonic : Option ℚ := none
  landed : Option Bool := none
  atOffsetS : Option ℚ := none
  atSteadyStateOffsetS : Option ℚ := none
  deriving DecidableEq, Repr

/-- How the fault command came back: with an exit status, or not at all. -/
inductive SshOutcome where
  | exited (returncode : ℤ)
  | raised
  deriving DecidableEq, Repr

/-- What `inject_fault` returns; the time was taken before the command was sent. -/
def injectFault (atMonotonic : ℚ) (outcome : SshOutcome) : Injected where
  atMonotonic := some atMonotonic
  landed :=
    match outcome with
    | .exited returncode => some (returncode = 0)
    | .raised => none

/-- What the timer enters when no sample came within its budget. -/
def notInjected : Injected where
  landed := some false

/-- Where the timer stands. -/
inductive Timer where
  | awaitingSample
  | givingUp
  | gaveUp
  | checkingStop
  | measuring
  | sleeping
  | calling (at_ : ℚ)
  | stampingOffset (at_ : ℚ)
  | stampingSteadyState (at_ : ℚ)
  | stopped
  | finished
  deriving DecidableEq, Repr

/-- The timer thread has ended. -/
def Timer.ended : Timer → Bool
  | .gaveUp | .stopped | .finished => true
  | _ => false

/-- Where the main thread stands, from the sample stream to the written events. -/
inductive Main where
  | streaming
  | stopping
  | releasing
  | joining
  | performance
  | availability
  | probe
  | events
  | restoring
  | done
  deriving DecidableEq, Repr

/-- What a figure is computed from: the time of the injection, or that there was none. -/
inductive Figure where
  | neverInjected
  | since (at_ : ℚ)
  deriving DecidableEq, Repr

def figureOf : Option ℚ → Figure
  | none => .neverInjected
  | some at_ => .since at_

/-- The entries of `events.json` that depend on the injection. -/
structure Events where
  performance : Option Figure := none
  availability : Option Figure := none
  probe : Option Figure := none
  faultLanded : Option Bool := none
  restored : Bool := false
  deriving DecidableEq, Repr

structure State where
  firstSampleSeen : Bool := false
  stopTimer : Bool := false
  steadyStateAt : ℚ := 0
  injected : Injected := {}
  timer : Timer := .awaitingSample
  main : Main := .streaming
  record : Events := {}
  /-- The call of `inject_fault`, with what it returned once it has. -/
  call : Option (ℚ × Option Injected) := none
  deriving DecidableEq, Repr

/-- Both threads have been started. -/
def init : State := {}

inductive TimerAction where
  | wait (signaled : Bool)
  | update
  | check
  | measure (now : ℚ)
  | sleep (signaled : Bool)
  | finish (outcome : SshOutcome)
  | stamp
  deriving DecidableEq, Repr

inductive MainAction where
  | tick (arrived : ℚ)
  | endStream
  | setStop
  | setSampleSeen
  | joinReturns
  | joinExpires
  | read
  deriving DecidableEq, Repr

inductive Action where
  | timer (a : TimerAction)
  | main (a : MainAction)
  deriving DecidableEq, Repr

/-- An event that is set ends a wait for it; one that is not set lets it time out. -/
def timerEnabled (s : State) : TimerAction → Bool
  | .wait signaled => s.timer = .awaitingSample && (!signaled || s.firstSampleSeen)
  | .update => s.timer = .givingUp
  | .check => s.timer = .checkingStop
  | .measure _ => s.timer = .measuring
  | .sleep signaled => s.timer = .sleeping && (!signaled || s.stopTimer)
  | .finish _ =>
    match s.timer with
    | .calling _ => true
    | _ => false
  | .stamp =>
    match s.timer with
    | .stampingOffset _ | .stampingSteadyState _ => true
    | _ => false

variable (chaos : Chaos)

def timerEffect (s : State) : TimerAction → State
  | .wait signaled => { s with timer := if signaled then .checkingStop else .givingUp }
  | .update => { s with injected := notInjected, timer := .gaveUp }
  | .check => { s with timer := if s.stopTimer then .stopped else .measuring }
  | .measure now =>
    if 0 < s.steadyStateAt + chaos.injectAtS - now then { s with timer := .sleeping }
    else { s with call := some (now, none), timer := .calling now }
  | .sleep signaled => { s with timer := if signaled then .stopped else .measuring }
  | .finish outcome =>
    match s.timer with
    | .calling at_ =>
      { s with
        injected := injectFault at_ outcome
        call := some (at_, some (injectFault at_ outcome))
        timer := .stampingOffset at_ }
    | _ => s
  | .stamp =>
    match s.timer with
    | .stampingOffset at_ =>
      { s with
        injected := { s.injected with atOffsetS := some (roundTo 3 (at_ - chaos.tZero)) }
        timer := .stampingSteadyState at_ }
    | .stampingSteadyState at_ =>
      { s with
        injected := { s.injected with
          atSteadyStateOffsetS := some (roundTo 3 (at_ - s.steadyStateAt)) }
        timer := .finished }
    | _ => s

/-- The join returns early only when the timer has ended, and may expire at any time. -/
def mainEnabled (s : State) : MainAction → Bool
  | .tick _ | .endStream => s.main = .streaming
  | .setStop => s.main = .stopping
  | .setSampleSeen => s.main = .releasing
  | .joinReturns => s.main = .joining && s.timer.ended
  | .joinExpires => s.main = .joining
  | .read =>
    match s.main with
    | .performance | .availability | .probe | .events | .restoring => true
    | _ => false

/-- The next entry of the record, from what `injected` holds now. -/
def readNext (s : State) : State :=
  match s.main with
  | .performance =>
    { s with
      record := { s.record with performance := some (figureOf s.injected.atOffsetS) }
      main := .availability }
  | .availability =>
    { s with
      record := { s.record with availability := some (figureOf s.injected.atMonotonic) }
      main := .probe }
  | .probe =>
    { s with
      record := { s.record with probe := some (figureOf s.injected.atOffsetS) }
      main := .events }
  | .events =>
    { s with
      record := { s.record with faultLanded := s.injected.landed }
      main := .restoring }
  | .restoring =>
    { s with
      record := { s.record with
        restored := chaos.mode = .dead ∧ s.injected.landed ≠ some false }
      main := .done }
  | _ => s

def mainEffect (s : State) : MainAction → State
  | .tick arrived =>
    if s.firstSampleSeen then s else { s with steadyStateAt := arrived, firstSampleSeen := true }
  | .endStream => { s with main := .stopping }
  | .setStop => { s with stopTimer := true, main := .releasing }
  | .setSampleSeen => { s with firstSampleSeen := true, main := .joining }
  | .joinReturns | .joinExpires => { s with main := .performance }
  | .read => readNext chaos s

def enabled (s : State) : Action → Bool
  | .timer a => timerEnabled s a
  | .main a => mainEnabled s a

def effect (s : State) : Action → State
  | .timer a => timerEffect chaos s a
  | .main a => mainEffect chaos s a

abbrev step : State → Action → Option State := guarded enabled (effect chaos)

end CrdbLab.InjectionTimer
