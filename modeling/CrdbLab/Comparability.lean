import CrdbLab.ManifestNotes
import CrdbLab.RowMatch
import CrdbLab.Validation
import Mathlib.Data.Rat.Floor

/-!
Whether two runs may be compared.

The two manifests must agree on the work that was done, on the cache the servers were given,
on the hosts and on the version. What was not recorded is a warning. Across engines the cache
of one is set against that of the other, and a difference of hosts can be accepted by the
caller.
-/

namespace CrdbLab.Comparability

open CrdbLab.Lib.Extended CrdbLab.Lib.Fallible CrdbLab.Lib.Fields CrdbLab.Lib.Rounding
open CrdbLab.ManifestNotes
open CrdbLab.Validation (Finding Severity ValidationReport)

def matchedServerFlags : List String := ["--cache", "--max-sql-memory"]

/-- Tolerated relative difference in total memory. -/
def memoryTolerance : ℚ := 1 / 20

/-- Tolerated relative difference between the two caches. -/
def cacheEquivalenceTolerance : ℚ := 1 / 20

/-- Workload parameters that must match, or the runs did different work. -/
def matchedWorkloadKeys : List String :=
  ["generator", "ycsb_workload", "read_freq", "update_freq", "request_distribution", "seed",
   "insert_count", "duration_s", "warmup_s"]

/-! ### Values -/

namespace Value

/-- The number a value stands for in a comparison. -/
def number? : Value → Option Number
  | .bool b => some (.finite (if b then 1 else 0))
  | .int n => some (.finite n)
  | .float x => some x
  | _ => none

/-- `v == w`: numbers of any kind are compared as such, and none equals `nan`. -/
def eq (v w : Value) : Bool :=
  match number? v, number? w with
  | some x, some y => x = y && x ≠ .nan
  | _, _ => v = w

/-- The text of a finite float, with an exponent where it is very large or very small. -/
def reprFinite (x : ℚ) : String :=
  let e := Int.log 10 |x|
  if x = 0 ∨ -4 ≤ e ∧ e < 16 then shortest 21 x
  else
    let mantissa := (shortest 16 (x / 10 ^ e)).toList
    let shown := if mantissa.drop (mantissa.length - 2) = ['.', '0'] then
      mantissa.take (mantissa.length - 2) else mantissa
    String.ofList shown ++ "e" ++ (if e < 0 then "-" else "+") ++ padded 2 e.natAbs

def reprNumber : Number → String
  | .finite x => reprFinite x
  | .infinite negative => if negative then "-inf" else "inf"
  | .nan => "nan"

/-- `repr(v)`. -/
def repr : Value → String
  | .none => "None"
  | .bool b => if b then "True" else "False"
  | .int n => toString n
  | .float x => reprNumber x
  | .str s => RowMatch.reprStr s

end Value

/-- What differs under a key. -/
structure Difference where
  key : String
  first : Value
  second : Value
  deriving DecidableEq, Repr

/-- The keys whose values are not equal, with both values. -/
def differing (keys : List String) (f g : String → Value) : List Difference :=
  (keys.map fun k => ⟨k, f k, g k⟩).filter fun d => !Value.eq d.first d.second

/-- What a finding of the comparison carries. -/
inductive Detail
  | differingWorkloadParameters (differences : List Difference)
  | mismatchedServerFlags (differences : List Difference)
  | caches (crdbImpliedCacheKb : Number) (pgSharedBuffersKb : ℕ) (relativeDifference : Number)
  | unverifiedCaches (crdbImpliedCacheKb : Option Number) (pgSharedBuffersKb : Option ℕ)
  | differingHardware (differences : List Difference) (accepted : Bool)
  | engines (engines : String × String) (serverVersions : Option String × Option String)
  | nothing
  deriving DecidableEq, Repr

/-- A finding of the check. -/
def finding (severity : Severity) (message : String) (detail : Detail) : Finding Detail :=
  ⟨"run_comparability", severity, message, detail⟩

@[simp] lemma finding_severity (severity : Severity) (message : String) (detail : Detail) :
    (finding severity message detail).severity = severity := rfl

@[simp] lemma finding_detail (severity : Severity) (message : String) (detail : Detail) :
    (finding severity message detail).detail = detail := rfl

/-! ### The work -/

/-- The finding that the two runs did different work. -/
def differentWorkloads (labelA labelB : String) (differences : List Difference) : Finding Detail :=
  finding .error
    (labelA ++ " and " ++ labelB ++ " ran different workloads, so their difference is not " ++
      "the quantity under study: " ++
      ", ".intercalate (differences.map fun d =>
        d.key ++ "=" ++ Value.repr d.first ++ " vs " ++ Value.repr d.second))
    (.differingWorkloadParameters differences)

def differingWorkload (a b : Manifest) : List Difference :=
  differing matchedWorkloadKeys a.parameter b.parameter

def workloadFindings (a b : Manifest) (labelA labelB : String) : List (Finding Detail) :=
  if differingWorkload a b = [] then []
  else [differentWorkloads labelA labelB (differingWorkload a b)]

/-! ### The servers -/

/-- The engine, CockroachDB where it is not recorded. -/
def engine (m : Manifest) : String := (m.engine.filter (· ≠ "")).getD "cockroachdb"

/-- The version; older runs recorded it only as that of CockroachDB. -/
def version (m : Manifest) : Option String :=
  (m.serverVersion.filter (· ≠ "")).or m.cockroachVersion

def textValue (s : Option (List Char)) : Value := (s.map fun t => Value.str (.ofList t)).getD .none

/-- The value read for a flag of a command line. -/
def flag (command : List Char) (name : String) : Option (List Char) :=
  lastOf name.toList (serverFlags command)

def shownFlag : Value → String
  | .str s => if s = "" then "unset, i.e. the 128 MiB default" else s
  | _ => "unset, i.e. the 128 MiB default"

/-- The finding that the two servers were not started alike. -/
def differentFlags (labelA labelB : String) (mismatched : List Difference) : Finding Detail :=
  finding .error
    (labelA ++ " and " ++ labelB ++ " were started with different " ++
      ", ".intercalate (mismatched.map fun d =>
        d.key ++ " (" ++ shownFlag d.first ++ " vs " ++ shownFlag d.second ++ ")") ++
      "; the difference between them therefore confounds the variable under study with " ++
      "cache residency")
    (.mismatchedServerFlags mismatched)

def mismatchedFlags (cmdA cmdB : List Char) : List Difference :=
  differing matchedServerFlags (fun name => textValue (flag cmdA name))
    fun name => textValue (flag cmdB name)

def flagFindings (labelA labelB : String) (cmdA cmdB : List Char) : List (Finding Detail) :=
  if mismatchedFlags cmdA cmdB = [] then []
  else [differentFlags labelA labelB (mismatchedFlags cmdA cmdB)]

/-- The value of a text as a double holds it. -/
def readFloat (s : List Char) : Option Number :=
  (Lib.Numeral.float (String.ofList s)).map fun x =>
    match x with
    | .finite q => if |q| * 2 ^ 1075 ≤ 1 then .finite 0 else .finite q
    | y => y

/-- `x * n`, where `n` is in the range of a double. -/
def scaled (x : Number) (n : ℕ) : Number :=
  match x with
  | .finite q => .ofRat (q * n)
  | y => y

/-- An integer as a double, which large ones are not. -/
def toDouble (n : ℕ) : Except PyError ℚ :=
  if (n : ℚ) < Number.overflowBound then .ok n else .error .overflowError

/-- The share `fraction` of the memory, where both are given and can be read. -/
def shareOf (fraction : Option (List Char)) (mem : Option ℕ) : Except PyError (Option Number) :=
  match fraction, mem with
  | some s, some n =>
    if s = [] ∨ n = 0 then .ok none
    else
      match readFloat s with
      | none => .ok none
      | some x => (toDouble n).map fun _ => some (scaled x n)
  | _, _ => .ok none

/-- The cache that CockroachDB takes of the memory of its host, as far as it can be told. -/
def impliedCacheKb (m : Manifest) (command : List Char) : Except PyError (Option Number) := do
  let hw ← hostHardware m
  shareOf (flag command "--cache") (hw.bind Hardware.memTotalKb)

/-- `x / y` for `y` that is not zero. -/
def quotient : Number → Number → Number
  | .finite x, .finite y => .ofRat (x / y)
  | .finite _, .infinite _ => .finite 0
  | .infinite n, .finite y => .infinite (n != decide (y < 0))
  | _, _ => .nan

/-- The difference of the two caches relative to the larger one. -/
def relativeDifference (crdbCacheKb : Number) (pgCacheKb : ℕ) : Except PyError Number := do
  let pg ← toDouble pgCacheKb
  let difference := match crdbCacheKb - .finite pg with
    | .finite x => Number.ofRat x
    | y => y
  let larger := if Number.lt crdbCacheKb (.finite pg) then .finite pg else crdbCacheKb
  if larger = .finite 0 then .error .zeroDivisionError
  else return quotient difference.abs larger

/-- A number with a fixed number of decimals. -/
def fixedNumber (n : ℕ) : Number → String
  | .finite x => fixed n x
  | x => Value.reprNumber x

def percent (n : ℕ) : Number → String
  | .finite x => fixed n (x * 100) ++ "%"
  | x => Value.reprNumber x ++ "%"

def roundNumber (n : ℕ) : Number → Number
  | .finite x => .finite (roundTo n x)
  | x => x

/-- What is told of the two caches: nothing, that one of them is not known, or that they
differ. -/
inductive CacheVerdict
  | equivalent
  | unknown (crdbCacheKb : Option Number) (pgCacheKb : Option ℕ)
  | different (crdbCacheKb : Number) (pgCacheKb : ℕ) (relDiff : Number)
  deriving DecidableEq, Repr

def compareCaches (crdbCacheKb : Option Number) (pgCacheKb : Option ℕ) :
    Except PyError CacheVerdict :=
  match crdbCacheKb, pgCacheKb with
  | some x, some n =>
    (relativeDifference x n).map fun relDiff =>
      if Number.lt (.finite cacheEquivalenceTolerance) relDiff then .different x n relDiff
      else .equivalent
  | x, n => .ok (.unknown x n)

def cacheVerdict (crdb pg : Manifest) (command : List Char) : Except PyError CacheVerdict := do
  let crdbCacheKb ← impliedCacheKb crdb command
  let pgMem ← pgCacheConfig pg
  compareCaches crdbCacheKb (pgMem.bind PgMemory.sharedBuffersKb)

/-- The memory of the host of a run, in text. -/
def shownMemory (m : Manifest) : String :=
  match hostHardware m with
  | .ok (some hw) => String.ofList (countText hw.memTotalKb)
  | _ => "None"

def CacheVerdict.findings (crdb : Manifest) (crdbLabel pgLabel : String) (command : List Char) :
    CacheVerdict → List (Finding Detail)
  | .equivalent => []
  | .unknown x n =>
    [finding .warning
      ("PostgreSQL's cache budget was not recorded for " ++ pgLabel ++ " (or CockroachDB's " ++
        "--cache/mem_total_kb could not be read for " ++ crdbLabel ++ "), so cross-engine " ++
        "cache-budget equivalence could not be verified")
      (.unverifiedCaches x n)]
  | .different x n relDiff =>
    [finding .error
      (crdbLabel ++ "'s implied cache (" ++ fixedNumber 0 x ++ " kB, --cache=" ++
        String.ofList ((flag command "--cache").getD []) ++ " of " ++ shownMemory crdb ++
        " kB RAM) and " ++ pgLabel ++ "'s shared_buffers (" ++ toString n ++
        " kB) differ by " ++ percent 1 relDiff ++ ", more than the " ++
        percent 0 (.finite cacheEquivalenceTolerance) ++ " tolerance; the difference between " ++
        "them therefore confounds the variable under study with cache residency")
      (.caches (roundNumber 1 x) n (roundNumber 4 relDiff))]

/-- CockroachDB's run and PostgreSQL's, where the two engines are these. -/
def cacheFindings (a b : Manifest) (labelA labelB : String) (cmdA cmdB : List Char) :
    Except PyError (List (Finding Detail)) :=
  if engine a = "cockroachdb" ∧ engine b = "postgresql" then
    (cacheVerdict a b cmdA).map (CacheVerdict.findings a labelA labelB cmdA)
  else if engine a = "postgresql" ∧ engine b = "cockroachdb" then
    (cacheVerdict b a cmdB).map (CacheVerdict.findings b labelB labelA cmdB)
  else .ok []

def unrecordedServer (label : String) : Finding Detail :=
  finding .warning
    ("server configuration is unrecorded for " ++ label ++
      ", so the two runs cannot be shown to have been configured alike") .nothing

def serverFindings (a b : Manifest) (labelA labelB : String) :
    Except PyError (List (Finding Detail)) :=
  match serverCommand a, serverCommand b with
  | some cmdA, some cmdB =>
    if engine a = engine b then .ok (flagFindings labelA labelB cmdA cmdB)
    else cacheFindings a b labelA labelB cmdA cmdB
  | cmdA, _ => .ok [unrecordedServer (if cmdA = none then labelA else labelB)]

/-! ### The hosts -/

def Hardware.value (h : Hardware) (key : String) : Value :=
  if key = "cpus" then (h.cpus.map fun n => Value.int n).getD .none
  else if key = "cpu_model" then (h.cpuModel.map Value.str).getD .none
  else (h.memTotalKb.map fun n => Value.int n).getD .none

/-- Memory differs beyond the tolerance, or is recorded for one host only. -/
def memoryDiffers (ma mb : Option ℕ) : Bool :=
  match ma, mb with
  | some x, some y =>
    x ≠ 0 && y ≠ 0 && memoryTolerance < |(x : ℚ) - y| / max (x : ℚ) y
  | none, none => false
  | _, _ => true

def differingHardware (ha hb : Hardware) : List Difference :=
  differing ["cpus", "cpu_model"] (Hardware.value ha) (Hardware.value hb) ++
    if memoryDiffers ha.memTotalKb hb.memTotalKb then
      [⟨"mem_total_kb", Hardware.value ha "mem_total_kb", Hardware.value hb "mem_total_kb"⟩]
    else []

def shownDifferences (differences : List Difference) : String :=
  ", ".intercalate (differences.map fun d =>
    d.key ++ ": " ++ Value.repr d.first ++ " vs " ++ Value.repr d.second)

/-- The finding that a difference of hosts is where the caller has not accepted it. -/
def refusedHardware (labelA labelB : String) (differences : List Difference) : Finding Detail :=
  finding .error
    (labelA ++ " and " ++ labelB ++ " were measured on different hardware (" ++
      shownDifferences differences ++ "); a throughput difference between them is not " ++
      "attributable to the variable under study. If this difference is a known limitation of " ++
      "the study rather than a mistake, say so explicitly rather than comparing anyway")
    (.differingHardware differences false)

/-- The finding that it is where the caller has. -/
def acceptedHardware (labelA labelB : String) (differences : List Difference) : Finding Detail :=
  finding .warning
    (labelA ++ " and " ++ labelB ++ " were measured on different hardware (" ++
      shownDifferences differences ++ "); this was explicitly accepted by the caller and the " ++
      "comparison proceeds. Latency ratios on a path bounded by network round trips are the " ++
      "least affected; absolute throughput and any CPU-bound quantity are the most")
    (.differingHardware differences true)

def unrecordedHost (label : String) : Finding Detail :=
  finding .warning
    ("host hardware is unrecorded for " ++ label ++
      ", so the two runs cannot be shown to have run on comparable machines") .nothing

def hostFindings (ha hb : Option Hardware) (labelA labelB : String) (accept : Bool) :
    List (Finding Detail) :=
  match ha, hb with
  | some x, some y =>
    if differingHardware x y = [] then []
    else if accept then [acceptedHardware labelA labelB (differingHardware x y)]
    else [refusedHardware labelA labelB (differingHardware x y)]
  | x, _ => [unrecordedHost (if x = none then labelA else labelB)]

def hardwareFindings (a b : Manifest) (labelA labelB : String) (accept : Bool) :
    Except PyError (List (Finding Detail)) := do
  let ha ← hostHardware a
  let hb ← hostHardware b
  return hostFindings ha hb labelA labelB accept

lemma hardwareFindings_eq_ok_iff {a b : Manifest} {labelA labelB : String} {accept : Bool}
    {findings : List (Finding Detail)} :
    hardwareFindings a b labelA labelB accept = .ok findings ↔
      ∃ ha hb, hostHardware a = .ok ha ∧ hostHardware b = .ok hb ∧
        hostFindings ha hb labelA labelB accept = findings := by
  simp only [hardwareFindings, bind_eq_ok_iff, pure, Except.pure, Except.ok.injEq]
  exact ⟨fun ⟨x, hx, y, hy, h⟩ => ⟨x, y, hx, hy, h⟩, fun ⟨x, y, hx, hy, h⟩ => ⟨x, hx, y, hy, h⟩⟩

/-! ### The check -/

def versionFindings (a b : Manifest) (labelA labelB : String) : List (Finding Detail) :=
  let va := version a
  let vb := version b
  if engine a ≠ engine b then
    [finding .warning
      (labelA ++ " and " ++ labelB ++ " are different engines (" ++ engine a ++ " " ++
        va.getD "None" ++ " vs " ++ engine b ++ " " ++ vb.getD "None" ++ "), which is the " ++
        "comparison being made; record both versions alongside any result drawn from it")
      (.engines (engine a, engine b) (va, vb))]
  else if va ≠ vb then
    [finding .error
      (labelA ++ " and " ++ labelB ++ " ran against different server versions (" ++
        va.getD "None" ++ " vs " ++ vb.getD "None" ++ ")") .nothing]
  else []

def checkRunComparability (a b : Manifest) (labelA labelB : String) (accept : Bool) :
    Except PyError (List (Finding Detail)) := do
  let server ← serverFindings a b labelA labelB
  let hardware ← hardwareFindings a b labelA labelB accept
  return workloadFindings a b labelA labelB ++ server ++ hardware ++
    versionFindings a b labelA labelB

/-- What a check that completes is made of. -/
lemma check_eq_ok_iff {a b : Manifest} {labelA labelB : String} {accept : Bool}
    {findings : List (Finding Detail)} :
    checkRunComparability a b labelA labelB accept = .ok findings ↔
      ∃ server hardware, serverFindings a b labelA labelB = .ok server ∧
        hardwareFindings a b labelA labelB accept = .ok hardware ∧
        workloadFindings a b labelA labelB ++ server ++ hardware ++
          versionFindings a b labelA labelB = findings := by
  simp only [checkRunComparability, bind_eq_ok_iff, pure, Except.pure, Except.ok.injEq]
  exact ⟨fun ⟨s, hs, h, hh, heq⟩ => ⟨s, h, hs, hh, heq⟩,
    fun ⟨s, h, hs, hh, heq⟩ => ⟨s, hs, h, hh, heq⟩⟩

/-- Whether two runs may legitimately be compared. -/
def validateComparison (a b : Manifest) (labelA labelB : String) (accept : Bool) :
    Except PyError (ValidationReport Detail) :=
  (checkRunComparability a b labelA labelB accept).map fun findings => ⟨findings⟩

lemma validate_eq_ok_iff {a b : Manifest} {labelA labelB : String} {accept : Bool}
    {report : ValidationReport Detail} :
    validateComparison a b labelA labelB accept = .ok report ↔
      checkRunComparability a b labelA labelB accept = .ok report.findings := by
  obtain ⟨findings⟩ := report
  simp [validateComparison, map_eq_ok_iff]

end CrdbLab.Comparability
