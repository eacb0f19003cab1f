import CrdbLab.Lib.Runs
import Mathlib.Data.Finset.Sort
import Mathlib.Data.Rat.Defs

/-!
The audit writer as three interleaved parties: the writer thread of `_loop`, the database
it inserts into, and the harness thread that leaves the `with` block and collects.

Each action is one statement of the source that another party can observe. The database
commits a row some time after its INSERT was sent, answers only for a committed row, and
never removes one.
-/

namespace CrdbLab.AuditWriter

open CrdbLab.Lib.Runs

inductive Outcome where
  | ack
  | ambiguous
  | refused
  deriving DecidableEq, Repr

/-- The handler's reading of `type(exc).__name__`: a connection-level failure leaves the
outcome unknown, anything else is a rejection. -/
def outcomeOf (name : String) : Outcome :=
  if ["Operational", "Interface", "Connection"].any
      fun part => decide (part.toList <:+: name.toList) then .ambiguous
  else .refused

/-- Where the writer thread stands in `_loop`. -/
inductive Pc where
  | checking
  | taking
  | connecting
  | sending
  | awaiting
  | settled (o : Outcome)
  | added (o : Outcome)
  | logged (o : Outcome)
  | waiting
  | ended
  deriving DecidableEq, Repr

structure AuditResult where
  acknowledged : ℕ := 0
  ambiguous : ℕ := 0
  refused : ℕ := 0
  present : ℕ := 0
  lost : List ℕ := []
  ambiguousCommitted : ℕ := 0
  firstAckUtc : Option String := none
  lastAckUtc : Option String := none
  deriving DecidableEq, Repr

def AuditResult.rpoViolations (r : AuditResult) : ℕ := r.lost.length

/-- The arguments `collect` evaluates for its `AuditResult`, in their order. -/
inductive Field where
  | acknowledged
  | ambiguous
  | refused
  | present
  | lost
  | ambiguousCommitted
  | firstAckUtc
  | lastAckUtc
  deriving DecidableEq, Repr

/-- The argument `lost` is not evaluated before this one. -/
def Field.lostPending : Field → Bool
  | .acknowledged | .ambiguous | .refused | .present | .lost => true
  | _ => false

/-- Where the harness thread stands, from the body of the `with` block to the result. -/
inductive Main where
  | body
  | joining
  | left
  | collecting (present : Finset ℕ) (field : Field) (result : AuditResult)
  | done (result : AuditResult)
  deriving DecidableEq

structure State where
  stop : Bool := false
  seq : ℕ := 0
  conn : Bool := false
  pc : Pc := .checking
  acknowledged : Finset ℕ := ∅
  ambiguous : Finset ℕ := ∅
  refused : Finset ℕ := ∅
  attempts : List (ℚ × ℕ × Outcome) := []
  firstAckUtc : Option String := none
  lastAckUtc : Option String := none
  stoppedAt : Option ℚ := none
  lastAttemptStarted : Option ℚ := none
  sent : Finset ℕ := ∅
  table : Finset ℕ := ∅
  main : Main := .body
  deriving DecidableEq

/-- A fresh table and a writer thread about to test `_stop`. -/
def init : State := {}

inductive WriterAction where
  | check
  | take (now : ℚ) (closed : Bool)
  | connect
  | send
  | answer
  | fail (exception : String)
  | add
  | append (now : ℚ)
  | stamp (utcnow : String)
  | close
  | wake
  deriving DecidableEq, Repr

inductive HarnessAction where
  | setStop
  | joinReturns (now : ℚ)
  | joinExpires (now : ℚ)
  | select
  | read
  deriving DecidableEq, Repr

inductive Action where
  | writer (a : WriterAction)
  | commit (n : ℕ)
  | harness (a : HarnessAction)
  deriving DecidableEq, Repr

/-- `self.acknowledged.add(seq)`, and the same for the other two sets. -/
def addOutcome (s : State) : Outcome → State
  | .ack => { s with acknowledged := insert s.seq s.acknowledged }
  | .ambiguous => { s with ambiguous := insert s.seq s.ambiguous }
  | .refused => { s with refused := insert s.seq s.refused }

/-- The statement the writer thread stands at is the one that may run. -/
def writerEnabled (s : State) : WriterAction → Bool
  | .check => s.pc = .checking
  | .take _ _ => s.pc = .taking
  | .connect => s.pc = .connecting
  | .send => s.pc = .sending
  | .answer => s.pc = .awaiting && s.seq ∈ s.table
  | .fail _ => s.pc = .connecting || s.pc = .sending || s.pc = .awaiting
  | .add =>
    match s.pc with
    | .settled _ => true
    | _ => false
  | .append _ =>
    match s.pc with
    | .added _ => true
    | _ => false
  | .stamp _ => s.pc = .logged .ack
  | .close => s.pc = .logged .ambiguous || s.pc = .logged .refused
  | .wake => s.pc = .waiting

def writerEffect (s : State) : WriterAction → State
  | .check => if s.stop then { s with pc := .ended, conn := false } else { s with pc := .taking }
  | .take now closed =>
    { s with
      seq := s.seq + 1
      lastAttemptStarted := some now
      pc := if !s.conn || closed then .connecting else .sending }
  | .connect => { s with conn := true, pc := .sending }
  | .send => { s with sent := insert s.seq s.sent, pc := .awaiting }
  | .answer => { s with pc := .settled .ack }
  | .fail exception => { s with pc := .settled (outcomeOf exception) }
  | .add =>
    match s.pc with
    | .settled o => { addOutcome s o with pc := .added o }
    | _ => s
  | .append now =>
    match s.pc with
    | .added o => { s with attempts := s.attempts ++ [(now, s.seq, o)], pc := .logged o }
    | _ => s
  | .stamp utcnow =>
    { s with
      firstAckUtc := s.firstAckUtc.orElse fun _ => some utcnow
      lastAckUtc := some utcnow
      pc := .waiting }
  | .close => { s with conn := false, pc := .waiting }
  | .wake => { s with pc := .checking }

/-- One more argument of `AuditResult(...)`, read off the writer as it is now. -/
def readField (s : State) (present : Finset ℕ) (r : AuditResult) : Field → Main
  | .acknowledged =>
    .collecting present .ambiguous { r with acknowledged := s.acknowledged.card }
  | .ambiguous => .collecting present .refused { r with ambiguous := s.ambiguous.card }
  | .refused => .collecting present .present { r with refused := s.refused.card }
  | .present => .collecting present .lost { r with present := present.card }
  | .lost =>
    .collecting present .ambiguousCommitted
      { r with lost := (s.acknowledged \ present).sort (· ≤ ·) }
  | .ambiguousCommitted =>
    .collecting present .firstAckUtc
      { r with ambiguousCommitted := (s.ambiguous ∩ present).card }
  | .firstAckUtc => .collecting present .lastAckUtc { r with firstAckUtc := s.firstAckUtc }
  | .lastAckUtc => .done { r with lastAckUtc := s.lastAckUtc }

/-- `__exit__` with its bounded join, then `collect`. The join returns early only when the
thread has ended, and may expire at any time. -/
def harnessEnabled (s : State) : HarnessAction → Bool
  | .setStop => s.main = .body
  | .joinReturns _ => s.main = .joining && s.pc = .ended
  | .joinExpires _ => s.main = .joining
  | .select => s.main = .left
  | .read =>
    match s.main with
    | .collecting _ _ _ => true
    | _ => false

def harnessEffect (s : State) : HarnessAction → State
  | .setStop => { s with stop := true, main := .joining }
  | .joinReturns now | .joinExpires now => { s with stoppedAt := some now, main := .left }
  | .select => { s with main := .collecting s.table .acknowledged {} }
  | .read =>
    match s.main with
    | .collecting present field r => { s with main := readField s present r field }
    | _ => s

/-- A row can only be committed once its INSERT was sent. -/
def enabled (s : State) : Action → Bool
  | .writer a => writerEnabled s a
  | .commit n => n ∈ s.sent
  | .harness a => harnessEnabled s a

def effect (s : State) : Action → State
  | .writer a => writerEffect s a
  | .commit n => { s with table := insert n s.table }
  | .harness a => harnessEffect s a

abbrev step : State → Action → Option State := guarded enabled effect

/-! ### What each party can change -/

@[simp] lemma addOutcome_main (s : State) (o : Outcome) : (addOutcome s o).main = s.main := by
  cases o <;> rfl

@[simp] lemma addOutcome_table (s : State) (o : Outcome) : (addOutcome s o).table = s.table := by
  cases o <;> rfl

lemma addOutcome_acknowledged (s : State) (o : Outcome) :
    (addOutcome s o).acknowledged =
      if o = .ack then insert s.seq s.acknowledged else s.acknowledged := by
  cases o <;> rfl

lemma outcomeOf_ne_ack (name : String) : outcomeOf name ≠ .ack := by
  unfold outcomeOf
  split <;> simp

@[simp] lemma writerEffect_main (s : State) (a : WriterAction) :
    (writerEffect s a).main = s.main := by
  cases a with
  | check => simp only [writerEffect]; split <;> rfl
  | add =>
    simp only [writerEffect]
    split
    · exact addOutcome_main s _
    · rfl
  | append now => simp only [writerEffect]; split <;> rfl
  | _ => rfl

@[simp] lemma writerEffect_table (s : State) (a : WriterAction) :
    (writerEffect s a).table = s.table := by
  cases a with
  | check => simp only [writerEffect]; split <;> rfl
  | add =>
    simp only [writerEffect]
    split
    · exact addOutcome_table s _
    · rfl
  | append now => simp only [writerEffect]; split <;> rfl
  | _ => rfl

/-- A number is acknowledged at the `add` that follows the database's answer, and only there. -/
lemma writerEffect_acknowledged (s : State) (a : WriterAction) :
    (writerEffect s a).acknowledged =
      if a = .add ∧ s.pc = .settled .ack then insert s.seq s.acknowledged
      else s.acknowledged := by
  cases a with
  | check => simp only [writerEffect]; split <;> rfl
  | add =>
    simp only [writerEffect]
    split
    · next o hpc => simp [addOutcome_acknowledged, hpc]
    · next hpc => exact (if_neg fun h => hpc _ h.2).symm
  | append now => simp only [writerEffect]; split <;> rfl
  | _ => rfl

/-- The thread stands before an acknowledgement only on the database's answer. -/
lemma writerEffect_settled {s : State} {a : WriterAction} (h : writerEnabled s a = true)
    (hpc : (writerEffect s a).pc = .settled .ack) : (writerEffect s a).seq ∈ s.table := by
  cases a with
  | answer =>
    obtain ⟨-, hmem⟩ := Bool.and_eq_true_iff.mp h
    exact of_decide_eq_true hmem
  | fail exception => simp [writerEffect, outcomeOf_ne_ack] at hpc
  | check => simp only [writerEffect] at hpc; split at hpc <;> simp at hpc
  | take now closed => simp only [writerEffect] at hpc; split at hpc <;> simp at hpc
  | add =>
    simp only [writerEnabled] at h
    simp only [writerEffect] at hpc
    split at h <;> simp_all
  | append now =>
    simp only [writerEnabled] at h
    simp only [writerEffect] at hpc
    split at h <;> simp_all
  | _ => simp [writerEffect] at hpc

lemma writerEnabled_ne_ended {s : State} {a : WriterAction} (h : writerEnabled s a = true) :
    s.pc ≠ .ended := by
  intro hpc
  cases a <;> simp [writerEnabled, hpc] at h

/-- What the harness thread never touches. -/
lemma harnessEffect_frame (s : State) (a : HarnessAction) :
    (harnessEffect s a).pc = s.pc ∧ (harnessEffect s a).seq = s.seq ∧
      (harnessEffect s a).acknowledged = s.acknowledged ∧ (harnessEffect s a).table = s.table := by
  cases a with
  | read => simp only [harnessEffect]; split <;> exact ⟨rfl, rfl, rfl, rfl⟩
  | _ => exact ⟨rfl, rfl, rfl, rfl⟩

/-- How the harness thread moves on. -/
lemma harnessEffect_main {s : State} {a : HarnessAction} (h : harnessEnabled s a = true) :
    (s.main = .body ∧ (harnessEffect s a).main = .joining) ∨
      (s.main = .joining ∧ (harnessEffect s a).main = .left ∧
        (s.pc = .ended ∨ ∃ now, a = .joinExpires now)) ∨
      (s.main = .left ∧ (harnessEffect s a).main = .collecting s.table .acknowledged {}) ∨
      ∃ present field r, s.main = .collecting present field r ∧
        (harnessEffect s a).main = readField s present r field := by
  cases a with
  | setStop => exact .inl ⟨of_decide_eq_true h, rfl⟩
  | joinReturns now =>
    obtain ⟨hm, hpc⟩ := Bool.and_eq_true_iff.mp h
    exact .inr (.inl ⟨of_decide_eq_true hm, rfl, .inl (of_decide_eq_true hpc)⟩)
  | joinExpires now => exact .inr (.inl ⟨of_decide_eq_true h, rfl, .inr ⟨now, rfl⟩⟩)
  | select => exact .inr (.inr (.inl ⟨of_decide_eq_true h, rfl⟩))
  | read =>
    rcases hm : s.main with _ | _ | _ | ⟨present, field, r⟩ | r
    case collecting =>
      exact .inr (.inr (.inr ⟨present, field, r, rfl, by simp [harnessEffect, hm]⟩))
    all_goals simp [harnessEnabled, hm] at h

end CrdbLab.AuditWriter
