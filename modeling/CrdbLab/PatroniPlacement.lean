import CrdbLab.Preflight
import CrdbLab.RowMatch
import CrdbLab.Testbed
import CrdbLab.AgentReader
import Mathlib.Algebra.Order.Archimedean.Basic
import Mathlib.Tactic.Linarith

/-!
Where the primary of the PostgreSQL cluster is, and how it is put back.

Patroni does not fail back on its own. Where the primary is elsewhere the check asks for one
switchover, once the expected node is a candidate that would be accepted, and then looks again.
What it is told may change from one request to the next.
-/

namespace CrdbLab.PatroniPlacement

open CrdbLab.Lib.Extended CrdbLab.Lib.Effects CrdbLab.Lib.Rounding CrdbLab.Lib.Numeral
open CrdbLab.Testbed CrdbLab.Preflight CrdbLab.AgentReader

/-! ### Values -/

/-- The number a value stands for in a comparison. -/
def number? : Json → Option Number
  | .bool b => some (.finite (if b then 1 else 0))
  | .int n => some (.finite n)
  | .float x => some x
  | _ => none

mutual

/-- `v == w`: numbers of any kind are compared as such, and none equals `nan`. -/
def valueEq : Json → Json → Bool
  | .null, .null => true
  | .string s, .string t => s = t
  | .array l, .array m => arrayEq l m
  | .object f, .object g => f.length = g.length && fieldsEq f g
  | v, w =>
    match number? v, number? w with
    | some x, some y => x = y && x ≠ .nan
    | _, _ => false

def arrayEq : List Json → List Json → Bool
  | [], [] => true
  | v :: l, w :: m => valueEq v w && arrayEq l m
  | _, _ => false

/-- Each field has an equal one under its key. -/
def fieldsEq : List (String × Json) → List (String × Json) → Bool
  | [], _ => true
  | (k, v) :: f, g =>
    (match g.lookup k with
     | some w => valueEq v w
     | none => false) && fieldsEq f g

end

/-- What the REST calls use of their language's library. -/
structure Library where
  loads : List UInt8 → Except LoadError Json
  repr : Json → String

/-! ### Answers -/

/-- Why a body could not be read to its end. -/
inductive ReadFailure
  /-- An `OSError`. -/
  | connection
  /-- An `HTTPException`. -/
  | protocol (e : String)
  deriving DecidableEq, Repr

/-- What a request to the REST API of a member comes to. -/
inductive Answer
  | response (status : ℤ) (body : Except ReadFailure (List UInt8))
  /-- An `HTTPError`, with its text. -/
  | httpError (code : ℤ) (text : String) (body : Except ReadFailure (List UInt8))
  /-- A `URLError` or an `OSError`, with its text. -/
  | unreachable (text : String)
  /-- An `HTTPException`. -/
  | broken (e : String)

/-- What leaves the check without a verdict. -/
inductive Escaped
  | topology (e : TopologyError)
  | protocol (e : String)
  /-- The body could not be read while an `HTTPError` was handled. -/
  | connection
  /-- The body is nested too deep. -/
  | recursion
  /-- The loop has not ended in so many rounds. -/
  | stillWaiting
  deriving DecidableEq, Repr

def Answer.status? : Answer → Option ℤ
  | .response status _ => some status
  | _ => none

/-- What a member is asked for. -/
inductive Path
  | primary
  | replica
  | patroni
  | quorum
  deriving DecidableEq, Repr

def Path.text : Path → String
  | .primary => "/primary"
  | .replica => "/replica"
  | .patroni => "/patroni"
  | .quorum => "/quorum"

/-! ### Verdicts -/

/-- What the test of a candidate finds. -/
inductive Readiness
  | replicaAnswered (status : ℤ)
  | replicaUnreachable (text : String)
  | unreadable
  | notStreaming (replicationState timeline : Json)
  | otherTimeline (timeline leaderTimeline : Json)
  | quorumUnreachable (timeline : Json) (text : String)
  | notQuorumMember (timeline : Json)
  | accepted (timeline : Json)

def Readiness.ready : Readiness → Bool
  | .accepted _ => true
  | _ => false

def Readiness.reason (lib : Library) : Readiness → String
  | .replicaAnswered status => "/replica answered " ++ toString status
  | .replicaUnreachable text => "/replica unreachable (" ++ text ++ ")"
  | .unreadable => "/replica answered 200 but /patroni could not be read"
  | .notStreaming replicationState timeline =>
    "/replica answered 200 but the member is not streaming (replication_state=" ++
      lib.repr replicationState ++ ", timeline=" ++ lib.repr timeline ++
      "); it is up and not lagging because it is not attached to the leader"
  | .otherTimeline timeline leaderTimeline =>
    "streaming but on timeline " ++ lib.repr timeline ++ ", not the leader's " ++
      lib.repr leaderTimeline
  | .quorumUnreachable timeline text =>
    "streaming on timeline " ++ lib.repr timeline ++ " but /quorum unreachable (" ++ text ++ ")"
  | .notQuorumMember timeline =>
    "streaming on timeline " ++ lib.repr timeline ++ " but not yet in " ++
      "synchronous_standby_names (/quorum did not answer 200); a switchover would be refused"
  | .accepted timeline =>
    "streaming on timeline " ++ lib.repr timeline ++ ", lag within bounds, quorum member"

def patroniPrimaryPort : String := "8008"

/-- The time between two tests of the candidate. -/
def patroniCandidatePollS : ℚ := 5

/-- Why there is no single primary. -/
inductive ResolveError
  | noPrimary (unreachable : List String)
  | splitBrain (primaries : List String)
  deriving DecidableEq, Repr

def ResolveError.message : ResolveError → String
  | .noPrimary unreachable =>
    "no cluster member's Patroni REST API (port " ++ patroniPrimaryPort ++
      ") reports itself primary; the cluster may be mid-failover or unreachable. Unreachable: " ++
      (if unreachable = [] then "none"
       else "[" ++ ", ".intercalate (unreachable.map RowMatch.reprStr) ++ "]")
  | .splitBrain primaries =>
    "more than one cluster member's Patroni REST API reports itself primary (" ++
      ", ".intercalate primaries ++
      "); this is a split-brain and the harness refuses to guess which one to fault"

/-! ### The world -/

/-- What the check did, with the number of requests made before. -/
inductive Event
  | resolved (asked : ℕ) (found : Except ResolveError Node)
  | leaderRead (asked : ℕ)
  | tested (asked : ℕ) (readiness : Readiness)
  /-- `patronictl switchover`, run on the leader. -/
  | switchover (leader candidate : String)

structure Observed where
  expected : String
  observed : Option String := none
  repaired : Option Bool := none
  deriving DecidableEq, Repr

structure World where
  requests : List String := []
  clockReads : ℕ := 0
  report : PreflightReport Observed
  events : List Event := []

def World.asked (w : World) : ℕ := w.requests.length

/-- The clock; before it is read again after a reading the loop has slept. -/
structure Clock where
  reading : ℕ → ℚ
  sleeps : ∀ k, 0 < k → reading k + patroniCandidatePollS ≤ reading (k + 1)

section Check

variable (lib : Library) (answers : ℕ → Node → Path → Answer) (clock : Clock)
  (switched : RemoteResult)

def url (node : Node) (path : Path) : String :=
  "http://" ++ node.host ++ ":" ++ patroniPrimaryPort ++ path.text

/-- The answer depends on what is asked and on how often something was asked before. -/
def ask (node : Node) (path : Path) : Comp World Escaped Answer := do
  let w ← get
  modify fun w => { w with requests := w.requests ++ [url node path] }
  return answers w.asked node path

def monotonic : Comp World Escaped ℚ := do
  let w ← get
  modify fun w => { w with clockReads := w.clockReads + 1 }
  return clock.reading w.clockReads

def log (event : Event) : Comp World Escaped Unit :=
  modify fun w => { w with events := w.events ++ [event] }

/-- The document in a body; what is none counts as empty. -/
def document (body : List UInt8) : Except Escaped Fields :=
  match lib.loads body with
  | .ok (.object state) => .ok state
  | .ok _ => .ok []
  | .error .value => .ok []
  | .error .recursion => .error .recursion

/-- The state a member's answer gives. -/
def stateOf : Answer → Except Escaped Fields
  | .response _ (.ok body) => document lib body
  | .response _ (.error .connection) => .ok []
  | .response _ (.error (.protocol e)) => .error (.protocol e)
  | .httpError _ _ (.ok body) => if body = [] then .ok [] else document lib body
  | .httpError _ _ (.error .connection) => .error .connection
  | .httpError _ _ (.error (.protocol e)) => .error (.protocol e)
  | .unreachable _ => .ok []
  | .broken e => .error (.protocol e)

def patroniMemberState (node : Node) : Comp World Escaped Fields := do
  let answer ← ask answers node .patroni
  raising (stateOf lib answer)

/-- `state.get(key)`. -/
def entry (state : Fields) (key : String) : Json := (field? state key).getD .null

/-- The state of the member on the leader's timeline, where that is known. -/
def memberRefusal (state : Fields) (leaderTimeline : Json) : Option Readiness :=
  let replicationState := entry state "replication_state"
  let timeline := entry state "timeline"
  if state.isEmpty then some .unreadable
  else if ¬ valueEq replicationState (.string "streaming") then
    some (.notStreaming replicationState timeline)
  else if ¬ valueEq leaderTimeline .null ∧ ¬ valueEq timeline leaderTimeline then
    some (.otherTimeline timeline leaderTimeline)
  else none

/-- Whether the member stands in the quorum. -/
def quorumReadiness (timeline : Json) : Answer → Except Escaped Readiness
  | .response status _ =>
    .ok (if status = 200 then .accepted timeline else .notQuorumMember timeline)
  | .httpError _ _ _ => .ok (.notQuorumMember timeline)
  | .unreachable text => .ok (.quorumUnreachable timeline text)
  | .broken e => .error (.protocol e)

/-- The three gates. -/
def gates (node : Node) (leaderTimeline : Json) : Comp World Escaped Readiness := do
  match ← ask answers node .replica with
  | .broken e => throw (.protocol e)
  | .unreachable text => return .replicaUnreachable text
  | .httpError code _ _ => return .replicaAnswered code
  | .response status _ =>
    if status ≠ 200 then return .replicaAnswered status
    else
      let state ← patroniMemberState lib answers node
      match memberRefusal state leaderTimeline with
      | some refusal => return refusal
      | none =>
        let answer ← ask answers node .quorum
        raising (quorumReadiness (entry state "timeline") answer)

def patroniCandidateReady (node : Node) (leaderTimeline : Json) :
    Comp World Escaped Readiness := do
  let w ← get
  let readiness ← gates lib answers node leaderTimeline
  log (.tested w.asked readiness)
  return readiness

/-- Asks the nodes in turn for those that are primary and those that do not answer. -/
def askPrimaries (primaries : List Node) (unreachable : List String) :
    List Node → Comp World Escaped (List Node × List String)
  | [] => return (primaries, unreachable)
  | node :: nodes => do
    match ← ask answers node .primary with
    | .broken e => throw (.protocol e)
    | .unreachable text =>
      askPrimaries primaries (unreachable ++ [node.name ++ " (" ++ text ++ ")"]) nodes
    | .httpError _ text _ =>
      askPrimaries primaries (unreachable ++ [node.name ++ " (" ++ text ++ ")"]) nodes
    | .response status _ =>
      if status = 200 then askPrimaries (primaries ++ [node]) unreachable nodes
      else askPrimaries primaries unreachable nodes

/-- The primary, if the answers single one out. -/
def single (primaries : List Node) (unreachable : List String) : Except ResolveError Node :=
  match primaries with
  | [node] => .ok node
  | [] => .error (.noPrimary unreachable)
  | primaries => .error (.splitBrain (primaries.map Node.name))

def resolvePatroniPrimary (topo : Topology) : Comp World Escaped (Except ResolveError Node) := do
  let w ← get
  let (primaries, unreachable) ← askPrimaries answers [] [] topo.nodes
  let found := single primaries unreachable
  log (.resolved w.asked found)
  return found

/-- Tests the candidate again until it is ready or the deadline has passed. -/
def waitCandidate (expected : Node) (leaderTimeline : Json) (deadline : ℚ) :
    ℕ → Readiness → Comp World Escaped Readiness
  | 0, _ => throw .stillWaiting
  | rounds + 1, readiness => do
    if readiness.ready then return readiness
    else
      let now ← monotonic clock
      if now < deadline then
        -- sleeps for the poll interval
        let next ← patroniCandidateReady lib answers expected leaderTimeline
        waitCandidate expected leaderTimeline deadline rounds next
      else return readiness

/-- Tests the candidate, and waits for it if there is time to. -/
def awaitCandidate (expected : Node) (leaderTimeline : Json) (settleTimeoutS : ℚ) (rounds : ℕ) :
    Comp World Escaped Readiness := do
  let first ← patroniCandidateReady lib answers expected leaderTimeline
  if ¬ first.ready ∧ 0 < settleTimeoutS then
    let now ← monotonic clock
    waitCandidate lib answers clock expected leaderTimeline (now + settleTimeoutS) rounds first
  else return first

def addCheck (passed : Bool) (detail : String) (observed : Observed) :
    Comp World Escaped (Check Observed) := do
  let check : Check Observed := ⟨"patroni_primary_placement", passed, detail, observed⟩
  modify fun w => { w with report := w.report.add check }
  return check

/-- The expected node, by default the gateway. -/
def expectedNode (topo : Topology) : Option Node → Except TopologyError Node
  | some node => .ok node
  | none => gateway topo

/-- Asks for the switchover and looks where the primary is now. -/
def switchOver (topo : Topology) (primary expected : Node) :
    Comp World Escaped (Check Observed) := do
  log (.switchover primary.host expected.host)
  match ← resolvePatroniPrimary answers topo with
  | .error e =>
    addCheck false
      ("switchover to " ++ expected.name ++ " left no single primary: " ++ e.message)
      ⟨expected.name, some primary.name, some true⟩
  | .ok now =>
    if now.host = expected.host then
      addCheck true ("switched over from " ++ primary.name ++ " to " ++ now.name)
        ⟨expected.name, some now.name, some true⟩
    else
      addCheck false
        ("switchover to " ++ expected.name ++ " did not take; primary is " ++ now.name ++ ". " ++
          firstText switched)
        ⟨expected.name, some now.name, some true⟩

def refusal (primary expected : Node) (settleTimeoutS : ℚ) (readiness : Readiness) : String :=
  "patroni primary is " ++ primary.name ++ ", and " ++ expected.name ++
    " is not a switchover candidate (" ++ readiness.reason lib ++ ")" ++
    (if 0 < settleTimeoutS then " after waiting " ++ fixed 0 settleTimeoutS ++ "s" else "")

/-- Waits for the candidate and switches over to it. -/
def repairPlacement (topo : Topology) (primary expected : Node) (settleTimeoutS : ℚ)
    (rounds : ℕ) : Comp World Escaped (Check Observed) := do
  let w ← get
  -- the leader's timeline is read once: the candidate must converge onto it
  let state ← patroniMemberState lib answers primary
  log (.leaderRead w.asked)
  let readiness ← awaitCandidate lib answers clock expected (entry state "timeline")
    settleTimeoutS rounds
  if readiness.ready then switchOver answers switched topo primary expected
  else
    addCheck false (refusal lib primary expected settleTimeoutS readiness)
      ⟨expected.name, some primary.name, some false⟩

/-- What follows from the first resolution. -/
def judgePrimary (topo : Topology) (expected : Node) (repair : Bool) (settleTimeoutS : ℚ)
    (rounds : ℕ) : Except ResolveError Node → Comp World Escaped (Check Observed)
  | .error e => addCheck false e.message ⟨expected.name, none, none⟩
  | .ok primary =>
    if primary.host = expected.host then
      addCheck true ("patroni primary is " ++ primary.name ++ ", as required")
        ⟨expected.name, some primary.name, some false⟩
    else if ¬ repair then
      addCheck false ("patroni primary is " ++ primary.name ++ ", expected " ++ expected.name)
        ⟨expected.name, some primary.name, some false⟩
    else repairPlacement lib answers clock switched topo primary expected settleTimeoutS rounds

def checkPatroniPrimaryPlacement (topo : Topology) (expected : Option Node) (repair : Bool)
    (settleTimeoutS : ℚ) (rounds : ℕ) : Comp World Escaped (Check Observed) := do
  let expected ← raising ((expectedNode topo expected).mapError .topology)
  let found ← resolvePatroniPrimary answers topo
  judgePrimary lib answers clock switched topo expected repair settleTimeoutS rounds found

end Check

/-! ### What the answers say -/

lemma valueEq_string {v : Json} {t : String} (h : valueEq v (.string t) = true) :
    v = .string t := by
  cases v <;> simp_all [valueEq, number?]

lemma valueEq_null_iff {v : Json} : valueEq v .null = true ↔ v = .null := by
  cases v <;> simp [valueEq, number?]

lemma null_valueEq {v : Json} (h : valueEq .null v = true) : v = .null := by
  cases v <;> simp_all [valueEq, number?]

/-- The answer is one that the code handles where it asks for it. -/
def Handled (lib : Library) : Path → Answer → Prop
  | .patroni, answer => ∃ state, stateOf lib answer = .ok state
  | _, .broken _ => False
  | _, _ => True

/-- The nodes whose answers say that they are primary, asked in turn. -/
def primariesAt (answers : ℕ → Node → Path → Answer) (asked : ℕ) (nodes : List Node) :
    List Node :=
  ((nodes.zipIdx asked).filter fun p => (answers p.2 p.1 .primary).status? = some 200).map Prod.fst

/-- A switchover to the member would be accepted. -/
structure Gates (lib : Library) (leader replica member quorum : Answer) : Prop where
  replica : replica.status? = some 200
  streaming : ∃ state, stateOf lib member = .ok state ∧
    field? state "replication_state" = some (.string "streaming")
  timeline : ∀ state known, stateOf lib leader = .ok state → field? state "timeline" = some known →
    known ≠ .null → ∃ state' t, stateOf lib member = .ok state' ∧
      field? state' "timeline" = some t ∧ valueEq t known = true
  quorum : quorum.status? = some 200

section Specs

variable {lib : Library} {answers : ℕ → Node → Path → Answer} {clock : Clock}
  {switched : RemoteResult}

lemma outcome_ask (node : Node) (path : Path) (w : World) :
    outcome (ask answers node path) w =
      (.ok (answers w.asked node path), { w with requests := w.requests ++ [url node path] }) :=
  rfl

/-- A world in which more was asked. -/
def World.ask (w : World) (urls : List String) : World := { w with requests := w.requests ++ urls }

/-- A world in which an event was logged. -/
def World.log (w : World) (events : List Event) : World := { w with events := w.events ++ events }

lemma asked_snoc (w : World) (u : String) :
    ({ w with requests := w.requests ++ [u] } : World).asked = w.asked + 1 := by
  simp [World.asked]

/-- A member that passes the two gates on its state. -/
lemma state_of_no_refusal {state : Fields} {leaderTimeline : Json}
    (h : memberRefusal state leaderTimeline = none) :
    field? state "replication_state" = some (.string "streaming") ∧
      (leaderTimeline ≠ .null → ∃ t, field? state "timeline" = some t ∧
        valueEq t leaderTimeline = true) := by
  unfold memberRefusal at h
  simp only at h
  split at h
  · cases h
  · split at h
    · cases h
    · next hstreaming =>
      split at h
      · cases h
      · next htimeline =>
        constructor
        · have hentry := valueEq_string (not_not.mp hstreaming)
          unfold entry at hentry
          cases hfield : field? state "replication_state" with
          | none =>
            rw [hfield] at hentry
            cases hentry
          | some v =>
            rw [hfield] at hentry
            exact congrArg some hentry
        · intro hknown
          have heq : valueEq (entry state "timeline") leaderTimeline = true := by
            by_contra hne
            exact htimeline ⟨fun hnull => hknown (valueEq_null_iff.mp hnull), hne⟩
          unfold entry at heq
          cases hfield : field? state "timeline" with
          | none =>
            rw [hfield] at heq
            exact absurd (null_valueEq heq) hknown
          | some t =>
            rw [hfield] at heq
            exact ⟨t, rfl, heq⟩

lemma ready_false_of_refusal {state : Fields} {leaderTimeline : Json} {refusal : Readiness}
    (h : memberRefusal state leaderTimeline = some refusal) : refusal.ready = false := by
  unfold memberRefusal at h
  simp only at h
  split at h
  · cases h
    rfl
  · split at h
    · cases h
      rfl
    · split at h
      · cases h
        rfl
      · cases h

/-- The answers to one test accept the member. -/
structure Accepts (lib : Library) (leaderTimeline : Json) (replica member quorum : Answer) :
    Prop where
  replica : replica.status? = some 200
  member : ∃ state, stateOf lib member = .ok state ∧ memberRefusal state leaderTimeline = none
  quorum : quorum.status? = some 200

lemma Accepts.gates {leader replica member quorum : Answer} {state : Fields}
    (hleader : stateOf lib leader = .ok state)
    (h : Accepts lib (entry state "timeline") replica member quorum) :
    Gates lib leader replica member quorum := by
  obtain ⟨hreplica, ⟨found, hfound, hrefusal⟩, hquorum⟩ := h
  obtain ⟨hstreaming, htimeline⟩ := state_of_no_refusal hrefusal
  refine ⟨hreplica, ⟨found, hfound, hstreaming⟩, ?_, hquorum⟩
  intro state' known hstate hknown hne
  rw [hleader] at hstate
  cases hstate
  have hentry : entry state "timeline" = known := by
    rw [entry, hknown]
    rfl
  rw [hentry] at htimeline
  obtain ⟨t, ht, heq⟩ := htimeline hne
  exact ⟨found, t, hfound, ht, heq⟩

lemma outcome_patroniMemberState (node : Node) (w : World) :
    outcome (patroniMemberState lib answers node) w =
      (stateOf lib (answers w.asked node .patroni), w.ask [url node .patroni]) := by
  unfold patroniMemberState
  rw [outcome_bind_ok (outcome_ask node .patroni w), outcome_raising]
  rfl

/-- The last gate on handled answers. -/
lemma quorumReadiness_spec {answer : Answer} (h : Handled lib .quorum answer) (timeline : Json) :
    ∃ readiness, quorumReadiness timeline answer = .ok readiness ∧
      (readiness.ready = true → answer.status? = some 200) := by
  cases answer with
  | broken e => exact h.elim
  | unreachable text =>
    exact ⟨_, rfl, fun hready => by cases hready⟩
  | httpError code text body =>
    exact ⟨_, rfl, fun hready => by cases hready⟩
  | response status body =>
    refine ⟨_, rfl, fun hready => ?_⟩
    split at hready
    · next hstatus => exact congrArg some hstatus
    · cases hready

/-- A world in which the clock was read once more. -/
def World.tick (w : World) : World := { w with clockReads := w.clockReads + 1 }

lemma outcome_monotonic (w : World) :
    outcome (monotonic clock) w = (.ok (clock.reading w.clockReads), w.tick) := rfl

lemma wait_ready {node : Node} {leaderTimeline : Json} {deadline : ℚ} {rounds : ℕ}
    (hrounds : 0 < rounds) {readiness : Readiness} (hready : readiness.ready = true) (w : World) :
    outcome (waitCandidate lib answers clock node leaderTimeline deadline rounds readiness) w =
      (.ok readiness, w) := by
  obtain ⟨n, rfl⟩ := Nat.exists_eq_succ_of_ne_zero hrounds.ne'
  rw [waitCandidate, if_pos hready]
  rfl

lemma wait_late {node : Node} {leaderTimeline : Json} {deadline : ℚ} {rounds : ℕ}
    (hrounds : 0 < rounds) {readiness : Readiness} (hready : ¬ readiness.ready = true) {w : World}
    (hlate : ¬ clock.reading w.clockReads < deadline) :
    outcome (waitCandidate lib answers clock node leaderTimeline deadline rounds readiness) w =
      (.ok readiness, w.tick) := by
  obtain ⟨n, rfl⟩ := Nat.exists_eq_succ_of_ne_zero hrounds.ne'
  rw [waitCandidate, if_neg hready, outcome_bind_ok (outcome_monotonic w), if_neg hlate]
  rfl

/-- A check is added with the verdict given. -/
lemma addCheck_spec (passed : Bool) (detail : String) (observed : Observed) (w : World) :
    ∃ check, outcome (addCheck passed detail observed) w =
      (.ok check, { w with report := w.report.add check }) ∧ check.passed = passed :=
  ⟨_, rfl, rfl⟩

section Handled

variable (hanswers : ∀ asked node path, Handled lib path (answers asked node path))

include hanswers

/-- **The three gates**, asked in turn. -/
lemma gates_spec (node : Node) (leaderTimeline : Json) (w : World) :
    ∃ readiness urls, outcome (gates lib answers node leaderTimeline) w =
        (.ok readiness, w.ask urls) ∧
      (readiness.ready = true → Accepts lib leaderTimeline (answers w.asked node .replica)
        (answers (w.asked + 1) node .patroni) (answers (w.asked + 2) node .quorum)) := by
  have hreplica := hanswers w.asked node .replica
  unfold gates
  rw [outcome_bind_ok (outcome_ask node .replica w)]
  cases hanswer : answers w.asked node .replica with
  | broken e =>
    rw [hanswer] at hreplica
    exact hreplica.elim
  | unreachable text => exact ⟨_, [url node .replica], rfl, fun h => by cases h⟩
  | httpError code text body => exact ⟨_, [url node .replica], rfl, fun h => by cases h⟩
  | response status body =>
    by_cases hstatus : status = 200
    · obtain ⟨state, hstate⟩ := hanswers (w.asked + 1) node .patroni
      have hmember : outcome (patroniMemberState lib answers node) (w.ask [url node .replica]) =
          (.ok state, w.ask [url node .replica, url node .patroni]) := by
        rw [outcome_patroniMemberState, World.ask, asked_snoc, hstate]
        simp [World.ask]
      simp only [hstatus, ne_eq, not_true_eq_false, if_false]
      rw [← World.ask, outcome_bind_ok hmember]
      cases hrefusal : memberRefusal state leaderTimeline with
      | some refusal =>
        refine ⟨refusal, _, rfl, fun h => ?_⟩
        rw [ready_false_of_refusal hrefusal] at h
        cases h
      | none =>
        have hasked : (w.ask [url node .replica, url node .patroni]).asked = w.asked + 2 := by
          simp [World.ask, World.asked]
        obtain ⟨readiness, hquorum, hready⟩ := quorumReadiness_spec
          (hanswers (w.asked + 2) node .quorum) (entry state "timeline")
        refine ⟨readiness, [url node .replica, url node .patroni, url node .quorum], ?_,
          fun h => ⟨rfl, ⟨state, hstate, hrefusal⟩, hready h⟩⟩
        simp only
        rw [outcome_bind_ok (outcome_ask node .quorum _), outcome_raising, hasked, hquorum]
        simp [World.ask]
    · simp only [ne_eq, hstatus, not_false_eq_true, if_true]
      exact ⟨_, [url node .replica], rfl, fun h => by cases h⟩

/-- A test is logged with what it found. -/
lemma candidate_spec (node : Node) (leaderTimeline : Json) (w : World) :
    ∃ readiness urls, outcome (patroniCandidateReady lib answers node leaderTimeline) w =
        (.ok readiness, (w.ask urls).log [.tested w.asked readiness]) ∧
      (readiness.ready = true → Accepts lib leaderTimeline (answers w.asked node .replica)
        (answers (w.asked + 1) node .patroni) (answers (w.asked + 2) node .quorum)) := by
  obtain ⟨readiness, urls, hgates, hready⟩ := gates_spec hanswers node leaderTimeline w
  refine ⟨readiness, urls, ?_, hready⟩
  unfold patroniCandidateReady
  rw [outcome_get_bind, outcome_bind_ok hgates]
  rfl

lemma askPrimaries_spec (nodes primaries : List Node) (unreachable : List String) (w : World) :
    ∃ unreachable' urls, outcome (askPrimaries answers primaries unreachable nodes) w =
      (.ok (primaries ++ primariesAt answers w.asked nodes, unreachable'), w.ask urls) := by
  induction nodes generalizing primaries unreachable w with
  | nil =>
    refine ⟨unreachable, [], ?_⟩
    simp [askPrimaries, primariesAt, World.ask]
  | cons node nodes ih =>
    have hnode := hanswers w.asked node .primary
    have hnext : (w.ask [url node .primary]).asked = w.asked + 1 := asked_snoc w _
    have hcons : primariesAt answers w.asked (node :: nodes) =
        (if (answers w.asked node .primary).status? = some 200 then [node] else []) ++
          primariesAt answers (w.asked + 1) nodes := by
      rw [primariesAt, List.zipIdx_cons, List.filter_cons]
      split <;> simp_all [primariesAt]
    unfold askPrimaries
    rw [outcome_bind_ok (outcome_ask node .primary w), hcons, ← World.ask]
    cases hanswer : answers w.asked node .primary with
    | broken e =>
      rw [hanswer] at hnode
      exact hnode.elim
    | unreachable text =>
      obtain ⟨unreachable', urls, hrest⟩ := ih primaries
        (unreachable ++ [node.name ++ " (" ++ text ++ ")"]) (w.ask [url node .primary])
      refine ⟨unreachable', url node .primary :: urls, ?_⟩
      simp only [hrest, hnext]
      simp [Answer.status?, World.ask]
    | httpError code text body =>
      obtain ⟨unreachable', urls, hrest⟩ := ih primaries
        (unreachable ++ [node.name ++ " (" ++ text ++ ")"]) (w.ask [url node .primary])
      refine ⟨unreachable', url node .primary :: urls, ?_⟩
      simp only [hrest, hnext]
      simp [Answer.status?, World.ask]
    | response status body =>
      by_cases hstatus : status = 200
      · obtain ⟨unreachable', urls, hrest⟩ := ih (primaries ++ [node]) unreachable
          (w.ask [url node .primary])
        refine ⟨unreachable', url node .primary :: urls, ?_⟩
        simp only [hstatus, if_true, hrest, hnext]
        simp [Answer.status?, World.ask]
      · obtain ⟨unreachable', urls, hrest⟩ := ih primaries unreachable (w.ask [url node .primary])
        refine ⟨unreachable', url node .primary :: urls, ?_⟩
        simp only [hstatus, if_false, hrest, hnext]
        simp [Answer.status?, hstatus, World.ask]

/-- **A resolution** finds the node that alone says it is primary. -/
lemma resolve_spec (topo : Topology) (w : World) :
    ∃ found urls, outcome (resolvePatroniPrimary answers topo) w =
        (.ok found, (w.ask urls).log [.resolved w.asked found]) ∧
      ∀ node, found = .ok node → primariesAt answers w.asked topo.nodes = [node] := by
  obtain ⟨unreachable, urls, hasked⟩ := askPrimaries_spec hanswers topo.nodes [] [] w
  refine ⟨single (primariesAt answers w.asked topo.nodes) unreachable, urls, ?_, ?_⟩
  · unfold resolvePatroniPrimary
    rw [outcome_get_bind, outcome_bind_ok hasked]
    rfl
  · intro node hfound
    unfold single at hfound
    split at hfound
    · next h =>
      cases hfound
      exact h
    · cases hfound
    · cases hfound

/-- The latest event is a test of the candidate, which accepts it if it found it ready. -/
def LatestTest (lib : Library) (answers : ℕ → Node → Path → Answer) (node : Node)
    (leaderTimeline : Json) (tests : List Event) (readiness : Readiness) : Prop :=
  ∃ earlier asked, tests = earlier ++ [.tested asked readiness] ∧
    (∀ e ∈ earlier, ∃ asked readiness, e = .tested asked readiness) ∧
    (readiness.ready = true → Accepts lib leaderTimeline (answers asked node .replica)
      (answers (asked + 1) node .patroni) (answers (asked + 2) node .quorum))

omit hanswers in
lemma LatestTest.next {node : Node} {leaderTimeline : Json} {tests : List Event}
    {readiness next : Readiness} {asked : ℕ}
    (h : LatestTest lib answers node leaderTimeline tests readiness)
    (hnext : next.ready = true → Accepts lib leaderTimeline (answers asked node .replica)
      (answers (asked + 1) node .patroni) (answers (asked + 2) node .quorum)) :
    LatestTest lib answers node leaderTimeline (tests ++ [.tested asked next]) next := by
  obtain ⟨earlier, before, rfl, hearlier, -⟩ := h
  refine ⟨earlier ++ [.tested before readiness], asked, rfl, fun e he => ?_, hnext⟩
  rcases List.mem_append.mp he with he | he
  · exact hearlier e he
  · exact ⟨before, readiness, List.mem_singleton.mp he⟩

/-- **The loop ends**, with as many rounds as the deadline is polls away. -/
lemma wait_spec (node : Node) (leaderTimeline : Json) (deadline : ℚ) (before : List Event)
    (report : PreflightReport Observed) (left : ℕ) (readiness : Readiness) (tests : List Event)
    (w : World) (hclock : 0 < w.clockReads)
    (hleft : deadline ≤ clock.reading w.clockReads + left * patroniCandidatePollS)
    (htests : LatestTest lib answers node leaderTimeline tests readiness)
    (hevents : w.events = before ++ tests) (hreport : w.report = report) :
    ∃ readiness' tests' w', LatestTest lib answers node leaderTimeline tests' readiness' ∧
      w'.events = before ++ tests' ∧ w'.report = report ∧
      ∀ rounds, left < rounds →
        outcome (waitCandidate lib answers clock node leaderTimeline deadline rounds readiness) w =
          (.ok readiness', w') := by
  induction left generalizing readiness tests w with
  | zero =>
    by_cases hready : readiness.ready = true
    · exact ⟨readiness, tests, w, htests, hevents, hreport, fun rounds hrounds =>
        wait_ready (Nat.pos_of_ne_zero hrounds.ne') hready w⟩
    · have hlate : ¬ clock.reading w.clockReads < deadline := by simpa using hleft
      exact ⟨readiness, tests, w.tick, htests, hevents, hreport, fun rounds hrounds =>
        wait_late (Nat.pos_of_ne_zero hrounds.ne') hready hlate⟩
  | succ left ih =>
    by_cases hready : readiness.ready = true
    · exact ⟨readiness, tests, w, htests, hevents, hreport, fun rounds hrounds =>
        wait_ready (Nat.zero_lt_of_lt hrounds) hready w⟩
    · by_cases hlate : clock.reading w.clockReads < deadline
      · -- one more test, a poll interval nearer to the deadline
        obtain ⟨next, urls, htest, hnext⟩ := candidate_spec hanswers node leaderTimeline w.tick
        have hsleeps := clock.sleeps w.clockReads hclock
        have hnear :
            deadline ≤ clock.reading (w.clockReads + 1) + left * patroniCandidatePollS := by
          push_cast at hleft
          linarith
        have hlogged : w.events ++ [.tested w.asked next] =
            before ++ (tests ++ [.tested w.asked next]) := by
          rw [hevents, List.append_assoc]
        obtain ⟨readiness', tests', w', htests', hevents', hreport', hrest⟩ :=
          ih next (tests ++ [Event.tested w.asked next])
            ((w.tick.ask urls).log [.tested w.asked next]) (Nat.succ_pos _) hnear
            (htests.next hnext) hlogged hreport
        refine ⟨readiness', tests', w', htests', hevents', hreport', fun rounds hrounds => ?_⟩
        obtain ⟨n, rfl⟩ := Nat.exists_eq_add_of_lt hrounds
        rw [waitCandidate, if_neg hready, outcome_bind_ok (outcome_monotonic w), if_pos hlate,
          outcome_bind_ok htest]
        exact hrest (left + 1 + n) (by omega)
      · exact ⟨readiness, tests, w.tick, htests, hevents, hreport, fun rounds hrounds =>
          wait_late (Nat.zero_lt_of_lt hrounds) hready hlate⟩

/-- **The switchover** is followed by one more resolution, which decides. -/
lemma switchOver_spec (topo : Topology) (primary expected : Node) (w : World) :
    ∃ check w' found, outcome (switchOver answers switched topo primary expected) w =
        (.ok check, w') ∧
      w'.report = w.report.add check ∧
      w'.events = w.events ++
        [.switchover primary.host expected.host, .resolved w.asked found] ∧
      (check.passed = true ↔ ∃ node, found = .ok node ∧ node.host = expected.host) := by
  obtain ⟨found, urls, hresolve, -⟩ := resolve_spec hanswers topo
    (w.log [.switchover primary.host expected.host])
  have hlog : outcome (log (.switchover primary.host expected.host)) w =
      (.ok (), w.log [.switchover primary.host expected.host]) := rfl
  unfold switchOver
  rw [outcome_bind_ok hlog, outcome_bind_ok hresolve]
  cases found with
  | error e =>
    refine ⟨_, _, .error e, rfl, rfl, ?_, by simp⟩
    simp [World.log, World.ask, World.asked]
  | ok now =>
    by_cases hhost : now.host = expected.host
    · simp only [if_pos hhost]
      refine ⟨_, _, .ok now, rfl, rfl, ?_, by simp [hhost]⟩
      simp [World.log, World.ask, World.asked]
    · simp only [if_neg hhost]
      refine ⟨_, _, .ok now, rfl, rfl, ?_, by simp [hhost]⟩
      simp [World.log, World.ask, World.asked]

/-- The candidate as it stands when the waiting is over. -/
lemma await_spec (expected : Node) (leaderTimeline : Json) (settleTimeoutS : ℚ) (w : World) :
    ∃ readiness tests w' N, LatestTest lib answers expected leaderTimeline tests readiness ∧
      w'.events = w.events ++ tests ∧ w'.report = w.report ∧
      ∀ rounds, N < rounds → outcome (awaitCandidate lib answers clock expected leaderTimeline
        settleTimeoutS rounds) w = (.ok readiness, w') := by
  obtain ⟨first, urls, hfirst, haccepts⟩ := candidate_spec hanswers expected leaderTimeline w
  have hlatest : LatestTest lib answers expected leaderTimeline [.tested w.asked first] first :=
    ⟨[], w.asked, rfl, by simp, haccepts⟩
  set w₁ : World := (w.ask urls).log [.tested w.asked first]
  by_cases hwait : ¬ first.ready ∧ 0 < settleTimeoutS
  · -- the polls that fit before the deadline
    obtain ⟨left, hleft⟩ := exists_nat_ge ((clock.reading w₁.clockReads + settleTimeoutS -
      clock.reading (w₁.clockReads + 1)) / patroniCandidatePollS)
    have hpoll : (0 : ℚ) < patroniCandidatePollS := by norm_num [patroniCandidatePollS]
    rw [div_le_iff₀ hpoll] at hleft
    obtain ⟨readiness, tests, w', htests, hevents, hreport, hrest⟩ :=
      wait_spec hanswers expected leaderTimeline (clock.reading w₁.clockReads + settleTimeoutS)
        w.events w.report left first [.tested w.asked first]
        w₁.tick (Nat.succ_pos _) (by change _ ≤ clock.reading (w₁.clockReads + 1) + _; linarith)
        hlatest rfl rfl
    refine ⟨readiness, tests, w', left, htests, hevents, hreport, fun rounds hrounds => ?_⟩
    unfold awaitCandidate
    rw [outcome_bind_ok hfirst, if_pos hwait, outcome_bind_ok (outcome_monotonic w₁)]
    exact hrest rounds hrounds
  · refine ⟨first, [.tested w.asked first], w₁, 0, hlatest, rfl, rfl, fun rounds _ => ?_⟩
    unfold awaitCandidate
    rw [outcome_bind_ok hfirst, if_neg hwait]
    rfl

/-- How a repair goes on from `w`: the leader is read and the candidate tested, and then it is
refused, or one switchover is followed by a resolution that decides. -/
def Repaired (lib : Library) (answers : ℕ → Node → Path → Answer) (primary expected : Node)
    (w w' : World) (check : Check Observed) : Prop :=
  ∃ state tests readiness,
    stateOf lib (answers w.asked primary .patroni) = .ok state ∧
    LatestTest lib answers expected (entry state "timeline") tests readiness ∧
    ((readiness.ready = false ∧ check.passed = false ∧
        w'.events = w.events ++ .leaderRead w.asked :: tests) ∨
      (readiness.ready = true ∧ ∃ asked found,
        (check.passed = true ↔ ∃ node, found = .ok node ∧ node.host = expected.host) ∧
        w'.events = (w.events ++ .leaderRead w.asked :: tests) ++
          [.switchover primary.host expected.host, .resolved asked found]))

/-- **The repair** ends with a refusal of the candidate or with one switchover. -/
lemma repair_spec (topo : Topology) (primary expected : Node) (settleTimeoutS : ℚ) (w : World) :
    ∃ check w' N,
      (∀ rounds, N < rounds → outcome (repairPlacement lib answers clock switched topo primary
        expected settleTimeoutS rounds) w = (.ok check, w')) ∧
      w'.report = w.report.add check ∧ Repaired lib answers primary expected w w' check := by
  obtain ⟨state, hstate⟩ := hanswers w.asked primary .patroni
  have hread : outcome (patroniMemberState lib answers primary) w =
      (.ok state, w.ask [url primary .patroni]) := by
    rw [outcome_patroniMemberState, hstate]
  set w₁ : World := (w.ask [url primary .patroni]).log [.leaderRead w.asked] with hw₁
  have hlog : outcome (log (.leaderRead w.asked)) (w.ask [url primary .patroni]) = (.ok (), w₁) :=
    rfl
  obtain ⟨readiness, tests, w₂, N, htests, hevents, hreport, hawaited⟩ :=
    await_spec hanswers expected (entry state "timeline") settleTimeoutS w₁
  have hevents' : w₂.events = w.events ++ .leaderRead w.asked :: tests := by
    rw [hevents, hw₁, World.log, World.ask, List.append_assoc, List.singleton_append]
  have hreport' : w₂.report = w.report := hreport
  have hrepair : ∀ rounds, N < rounds → ∀ check w₃,
      outcome (if readiness.ready then switchOver answers switched topo primary expected
        else addCheck false (refusal lib primary expected settleTimeoutS readiness)
          ⟨expected.name, some primary.name, some false⟩) w₂ = (.ok check, w₃) →
      outcome (repairPlacement lib answers clock switched topo primary expected settleTimeoutS
        rounds) w = (.ok check, w₃) := by
    intro rounds hrounds check w₃ h
    unfold repairPlacement
    rw [outcome_get_bind, outcome_bind_ok hread, outcome_bind_ok hlog,
      outcome_bind_ok (hawaited rounds hrounds)]
    exact h
  cases hready : readiness.ready with
  | false =>
    simp only [hready, Bool.false_eq_true, if_false] at hrepair
    obtain ⟨check, hcheck, hpassed⟩ := addCheck_spec false
      (refusal lib primary expected settleTimeoutS readiness)
      ⟨expected.name, some primary.name, some false⟩ w₂
    refine ⟨check, { w₂ with report := w₂.report.add check }, N,
      fun rounds hrounds => hrepair rounds hrounds check _ hcheck, ?_, state, tests, readiness,
      hstate, htests, Or.inl ⟨hready, hpassed, hevents'⟩⟩
    rw [hreport']
  | true =>
    simp only [hready, if_true] at hrepair
    obtain ⟨check, w₃, found, hswitch, hadded, hlogged, hpassed⟩ :=
      switchOver_spec hanswers topo primary expected w₂
    refine ⟨check, w₃, N, fun rounds hrounds => hrepair rounds hrounds check w₃ hswitch, ?_,
      state, tests, readiness, hstate, htests, Or.inr ⟨hready, w₂.asked, found, hpassed, ?_⟩⟩
    · rw [hadded, hreport']
    · rw [hlogged, hevents']

/-- **What follows the first resolution**: a check at once, or a repair. -/
lemma judge_spec (topo : Topology) (expected : Node) (repair : Bool) (settleTimeoutS : ℚ)
    (found : Except ResolveError Node) (w : World) :
    ∃ check w' N,
      (∀ rounds, N < rounds → outcome (judgePrimary lib answers clock switched topo expected repair
        settleTimeoutS rounds found) w = (.ok check, w')) ∧
      w'.report = w.report.add check ∧
      ((w'.events = w.events ∧
          (check.passed = true ↔ ∃ node, found = .ok node ∧ node.host = expected.host)) ∨
        ∃ primary, repair = true ∧ found = .ok primary ∧ primary.host ≠ expected.host ∧
          Repaired lib answers primary expected w w' check) := by
  cases found with
  | error e =>
    obtain ⟨check, hcheck, hpassed⟩ := addCheck_spec false e.message ⟨expected.name, none, none⟩ w
    exact ⟨check, _, 0, fun _ _ => hcheck, rfl, Or.inl ⟨rfl, by simp [hpassed]⟩⟩
  | ok primary =>
    by_cases hhost : primary.host = expected.host
    · obtain ⟨check, hcheck, hpassed⟩ := addCheck_spec true
        ("patroni primary is " ++ primary.name ++ ", as required")
        ⟨expected.name, some primary.name, some false⟩ w
      refine ⟨check, { w with report := w.report.add check }, 0, fun rounds _ => ?_, rfl,
        Or.inl ⟨rfl, by simp [hpassed, hhost]⟩⟩
      rw [judgePrimary, if_pos hhost]
      exact hcheck
    · cases repair with
      | false =>
        obtain ⟨check, hcheck, hpassed⟩ := addCheck_spec false
          ("patroni primary is " ++ primary.name ++ ", expected " ++ expected.name)
          ⟨expected.name, some primary.name, some false⟩ w
        refine ⟨check, { w with report := w.report.add check }, 0, fun rounds _ => ?_, rfl,
          Or.inl ⟨rfl, by simp [hpassed, hhost]⟩⟩
        rw [judgePrimary, if_neg hhost, if_pos (by simp)]
        exact hcheck
      | true =>
        obtain ⟨check, w', N, hrun, hreport, hrepaired⟩ :=
          repair_spec hanswers topo primary expected settleTimeoutS w
        refine ⟨check, w', N, fun rounds hrounds => ?_, hreport,
          Or.inr ⟨primary, rfl, rfl, hhost, hrepaired⟩⟩
        rw [judgePrimary, if_neg hhost, if_neg (by simp)]
        exact hrun rounds hrounds

end Handled

end Specs

/-! ### Whole runs -/

def World.start (report : PreflightReport Observed) : World := { report := report }

def Event.isSwitchover : Event → Bool
  | .switchover _ _ => true
  | _ => false

def Event.resolution? : Event → Option (Except ResolveError Node)
  | .resolved _ found => some found
  | _ => none

/-- What the last resolution found. -/
def lastResolution (events : List Event) : Option (Except ResolveError Node) :=
  (events.filterMap Event.resolution?).getLast?

section Runs

variable (lib : Library) (answers : ℕ → Node → Path → Answer) (topo : Topology)
  (expected : Node) (repair : Bool)

/-- A switchover comes after a first resolution with a single primary elsewhere, and right after
a test in which the expected node passed the three gates. -/
def Justified (events : List Event) : Prop :=
  ∀ before leader candidate after, events = before ++ .switchover leader candidate :: after →
    repair = true ∧ candidate = expected.host ∧
      ∃ primary asked tests n readiness,
        before = .resolved 0 (.ok primary) :: .leaderRead asked ::
          (tests ++ [.tested n readiness]) ∧
        leader = primary.host ∧ primariesAt answers 0 topo.nodes = [primary] ∧
        primary.host ≠ expected.host ∧
        Gates lib (answers asked primary .patroni) (answers n expected .replica)
          (answers (n + 1) expected .patroni) (answers (n + 2) expected .quorum)

/-- The check comes to an end, with what it may have done on the way. -/
def RepairsSafely (clock : Clock) (switched : RemoteResult) (given : Option Node)
    (settleTimeoutS : ℚ) : Prop :=
  ∀ report, ∃ check w N,
    (∀ rounds, N < rounds → outcome (checkPatroniPrimaryPlacement lib answers clock switched topo
      given repair settleTimeoutS rounds) (World.start report) = (.ok check, w)) ∧
    w.report = report.add check ∧
    (w.events.filter Event.isSwitchover).length ≤ 1 ∧
    Justified lib answers topo expected repair w.events ∧
    (check.passed = true ↔
      ∃ node, lastResolution w.events = some (.ok node) ∧ node.host = expected.host)

variable {lib answers topo expected repair}

lemma justified_of_none {events : List Event} (h : ∀ e ∈ events, e.isSwitchover = false) :
    Justified lib answers topo expected repair events := by
  rintro before leader candidate after rfl
  have hswitch := h (.switchover leader candidate) (by simp)
  cases hswitch

lemma filter_switchover_eq_nil {events : List Event} (h : ∀ e ∈ events, e.isSwitchover = false) :
    events.filter Event.isSwitchover = [] :=
  List.filter_eq_nil_iff.mpr fun e he => by simp [h e he]

/-- The only switchover of a list stands where it was put. -/
lemma eq_of_split {pre before after rest : List Event}
    {leader candidate leader' candidate' : String}
    (hpre : ∀ e ∈ pre, e.isSwitchover = false) (hrest : ∀ e ∈ rest, e.isSwitchover = false)
    (h : pre ++ .switchover leader candidate :: rest =
      before ++ .switchover leader' candidate' :: after) :
    before = pre ∧ leader' = leader ∧ candidate' = candidate := by
  induction pre generalizing before with
  | nil =>
    cases before with
    | nil =>
      cases h
      exact ⟨rfl, rfl, rfl⟩
    | cons e before =>
      rw [List.nil_append, List.cons_append, List.cons.injEq] at h
      have hswitch := hrest (.switchover leader' candidate') (by rw [h.2]; simp)
      cases hswitch
  | cons p pre ih =>
    cases before with
    | nil =>
      rw [List.cons_append, List.nil_append, List.cons.injEq] at h
      have hswitch := hpre p (by simp)
      rw [h.1] at hswitch
      cases hswitch
    | cons e before =>
      rw [List.cons_append, List.cons_append, List.cons.injEq] at h
      obtain ⟨rfl, h⟩ := h
      obtain ⟨rfl, hleader, hcandidate⟩ := ih (fun e he => hpre e (List.mem_cons_of_mem p he)) h
      exact ⟨rfl, hleader, hcandidate⟩

lemma LatestTest.all_tested {node : Node} {leaderTimeline : Json} {tests : List Event}
    {readiness : Readiness} (h : LatestTest lib answers node leaderTimeline tests readiness) :
    ∀ e ∈ tests, ∃ asked readiness, e = .tested asked readiness := by
  obtain ⟨earlier, asked, rfl, hearlier, -⟩ := h
  intro e he
  rcases List.mem_append.mp he with he | he
  · exact hearlier e he
  · exact ⟨asked, readiness, List.mem_singleton.mp he⟩

lemma filterMap_tested {tests : List Event}
    (h : ∀ e ∈ tests, ∃ asked readiness, e = .tested asked readiness) :
    tests.filterMap Event.resolution? = [] := by
  refine List.filterMap_eq_nil_iff.mpr fun e he => ?_
  obtain ⟨asked, readiness, rfl⟩ := h e he
  rfl

lemma not_switchover_of_tested {tests : List Event}
    (h : ∀ e ∈ tests, ∃ asked readiness, e = .tested asked readiness) :
    ∀ e ∈ tests, e.isSwitchover = false := by
  intro e he
  obtain ⟨asked, readiness, rfl⟩ := h e he
  rfl

/-- The events of a repair that ends with a switchover. -/
lemma justified_of_switched {primary : Node} {asked asked' : ℕ} {state : Fields}
    {tests : List Event} {readiness : Readiness} {found : Except ResolveError Node}
    (hsingle : primariesAt answers 0 topo.nodes = [primary])
    (hhost : primary.host ≠ expected.host)
    (hstate : stateOf lib (answers asked primary .patroni) = .ok state)
    (htests : LatestTest lib answers expected (entry state "timeline") tests readiness)
    (hready : readiness.ready = true) :
    Justified lib answers topo expected true ((.resolved 0 (.ok primary) :: .leaderRead asked ::
      tests) ++ [.switchover primary.host expected.host, .resolved asked' found]) := by
  intro before leader candidate after h
  have hpre : ∀ e ∈ (.resolved 0 (.ok primary) :: .leaderRead asked :: tests : List Event),
      e.isSwitchover = false := by
    intro e he
    rcases List.mem_cons.mp he with rfl | he
    · rfl
    · rcases List.mem_cons.mp he with rfl | he
      · rfl
      · exact not_switchover_of_tested htests.all_tested e he
  obtain ⟨rfl, rfl, rfl⟩ := eq_of_split hpre (by simp [Event.isSwitchover]) h
  obtain ⟨earlier, n, rfl, -, haccepts⟩ := htests
  exact ⟨rfl, rfl, primary, asked, earlier, n, readiness, rfl, rfl, hsingle, hhost,
    (haccepts hready).gates hstate⟩

/-- **The repair is safe**: on answers that the code handles, whatever they say and however they
change, the check is added once, and what it did was justified. -/
theorem repairs_safely {clock : Clock} {switched : RemoteResult} {given : Option Node}
    {settleTimeoutS : ℚ} (hgiven : expectedNode topo given = .ok expected)
    (hanswers : ∀ asked node path, Handled lib path (answers asked node path)) :
    RepairsSafely lib answers topo expected repair clock switched given settleTimeoutS := by
  intro report
  obtain ⟨found, urls, hresolve, hsingle⟩ := resolve_spec hanswers topo (World.start report)
  have hexpected : outcome (raising ((expectedNode topo given).mapError .topology) :
      Comp World Escaped Node) (World.start report) = (.ok expected, World.start report) := by
    rw [hgiven]
    rfl
  obtain ⟨check, w, N, hrun, hreport, hcourse⟩ := @judge_spec lib answers clock switched hanswers
    topo expected repair settleTimeoutS found
    (((World.start report).ask urls).log [.resolved 0 found])
  refine ⟨check, w, N, fun rounds hrounds => ?_, hreport, ?_⟩
  · unfold checkPatroniPrimaryPlacement
    rw [outcome_bind_ok hexpected, outcome_bind_ok hresolve]
    exact hrun rounds hrounds
  · change ((w.events = [.resolved 0 found] ∧ _) ∨ _) at hcourse
    rcases hcourse with ⟨hevents, hpassed⟩ | ⟨primary, rfl, rfl, hhost, state, tests, readiness,
      hstate, htests, ⟨-, hpassed, hevents⟩ | ⟨hready, asked, found', hpassed, hevents⟩⟩
    · -- the first resolution decides
      have hnone : ∀ e ∈ w.events, e.isSwitchover = false := by
        rw [hevents]
        simp [Event.isSwitchover]
      refine ⟨by rw [filter_switchover_eq_nil hnone]; simp, justified_of_none hnone, ?_⟩
      rw [hpassed, hevents]
      simp [lastResolution, Event.resolution?]
    · -- the candidate is refused
      change w.events = .resolved 0 (.ok primary) :: .leaderRead _ :: tests at hevents
      have hnone : ∀ e ∈ w.events, e.isSwitchover = false := by
        rw [hevents]
        simpa [Event.isSwitchover] using not_switchover_of_tested htests.all_tested
      refine ⟨by rw [filter_switchover_eq_nil hnone]; simp, justified_of_none hnone, ?_⟩
      rw [hpassed, hevents]
      simp [lastResolution, List.filterMap_cons, Event.resolution?,
        filterMap_tested htests.all_tested, hhost]
    · -- one switchover, and the resolution after it decides
      change w.events = (.resolved 0 (.ok primary) :: .leaderRead _ :: tests) ++
        [.switchover primary.host expected.host, .resolved asked found'] at hevents
      have hnone := filter_switchover_eq_nil (not_switchover_of_tested htests.all_tested)
      refine ⟨?_, ?_, ?_⟩
      · rw [hevents]
        simp [List.filter_append, List.filter_cons, hnone, Event.isSwitchover]
      · rw [hevents]
        exact justified_of_switched (hsingle primary rfl) hhost hstate htests hready
      · rw [hpassed, hevents]
        simp [lastResolution, List.filterMap_cons, Event.resolution?,
          filterMap_tested htests.all_tested]

end Runs

/-! ### A primary that is elsewhere -/

def azure2 : Node := { name := "azure-2", host := "crdb-azure-2", region := "eastasia" }

def pair : Topology := ⟨[gcp1, azure2]⟩

def memberBody : List UInt8 :=
  "\x7b\"replication_state\": \"streaming\", \"timeline\": 2\x7d".toUTF8.toList

def memberLibrary : Library where
  loads body :=
    if body = memberBody then
      .ok (.object [("replication_state", .string "streaming"), ("timeline", .int 2)])
    else .error .value
  repr _ := ""

def everyPoll : Clock where
  reading k := 5 * k
  sleeps k _ := by
    push_cast [patroniCandidatePollS]
    linarith

/-- The gateway answers as primary once the switchover is made. -/
def moves (body : Except ReadFailure (List UInt8)) (asked : ℕ) (_ : Node) : Path → Answer
  | .primary =>
    if asked = 1 ∨ asked = 6 then .response 200 (.ok [])
    else .httpError 503 "HTTP Error 503: Service Unavailable" (.ok [])
  | .patroni => .response 200 body
  | _ => .response 200 (.ok [])

theorem moves_repairs_safely :
    RepairsSafely memberLibrary (moves (.ok memberBody)) pair gcp1 true everyPoll ⟨0, "", ""⟩ none
      0 := by
  refine repairs_safely rfl fun asked node path => ?_
  cases path with
  | primary =>
    unfold moves
    by_cases h : asked = 1 ∨ asked = 6
    · rw [if_pos h]
      exact trivial
    · rw [if_neg h]
      exact trivial
  | replica => exact trivial
  | patroni => exact ⟨_, by simp only [moves, stateOf, document, memberLibrary, if_true]; rfl⟩
  | quorum => exact trivial

/-- The connection is closed in the middle of the leader's document, and no check is added. -/
theorem cut_off_unsafe :
    ¬ RepairsSafely memberLibrary (moves (.error (.protocol "IncompleteRead"))) pair gcp1 true
      everyPoll ⟨0, "", ""⟩ none 0 := by
  intro h
  obtain ⟨check, w, N, hrun, -⟩ := h ⟨[]⟩
  have hraised : (outcome (checkPatroniPrimaryPlacement memberLibrary
      (moves (.error (.protocol "IncompleteRead"))) everyPoll ⟨0, "", ""⟩ pair none true 0 (N + 1))
      (World.start ⟨[]⟩)).1 = .error (.protocol "IncompleteRead") := rfl
  rw [hrun (N + 1) (Nat.lt_succ_self N)] at hraised
  cases hraised

end CrdbLab.PatroniPlacement
