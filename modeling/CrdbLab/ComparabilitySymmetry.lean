import CrdbLab.Comparability

/-!
The comparison of two runs the other way round, and of a run with itself.

The labels go into the texts only. Which findings there are, and which of them are errors,
rests on tests that do not tell the first run from the second: whether values are equal, and
whether something is recorded for both. Of a run and itself all of these agree, but for a
parameter that is not a number, which equals nothing.
-/

namespace CrdbLab.ComparabilitySymmetry

open CrdbLab.Lib.Extended
open CrdbLab.ManifestNotes CrdbLab.Comparability
open CrdbLab.Validation (Finding Severity ValidationReport)

variable {a b : Manifest}

/-! ### Values -/

lemma eq_comm_value (v w : Value) : Value.eq v w = Value.eq w v := by
  unfold Value.eq
  cases hv : Value.number? v with
  | none => cases hw : Value.number? w <;> simp [eq_comm]
  | some x =>
    cases hw : Value.number? w with
    | none => simp [eq_comm]
    | some y =>
      by_cases h : x = y
      · simp [h]
      · simp [h, Ne.symm h]

lemma eq_self_iff {v : Value} : Value.eq v v = true ↔ v ≠ .float .nan := by
  cases v <;> simp [Value.eq, Value.number?]

lemma differing_eq_nil_iff {keys : List String} {f g : String → Value} :
    differing keys f g = [] ↔ ∀ key ∈ keys, Value.eq (f key) (g key) = true := by
  simp [differing, List.filter_eq_nil_iff]

lemma differing_comm_nil {keys : List String} {f g : String → Value} :
    differing keys f g = [] ↔ differing keys g f = [] := by
  simp only [differing_eq_nil_iff]
  refine forall₂_congr fun key _ => ?_
  rw [eq_comm_value]

lemma textValue_ne_nan (s : Option (List Char)) : textValue s ≠ .float .nan := by
  cases s <;> simp [textValue]

lemma value_ne_nan (h : Hardware) (key : String) : Hardware.value h key ≠ .float .nan := by
  unfold Hardware.value
  split_ifs
  · cases h.cpus <;> simp
  · cases h.cpuModel <;> simp
  · cases h.memTotalKb <;> simp

/-! ### Severities -/

/-- The severities of the findings, in their order. -/
def severities (findings : List (Finding Detail)) : List Severity := findings.map Finding.severity

@[simp] lemma severities_append (fs gs : List (Finding Detail)) :
    severities (fs ++ gs) = severities fs ++ severities gs := List.map_append

@[simp] lemma severities_nil : severities [] = [] := rfl

@[simp] lemma severities_finding (severity : Severity) (message : String) (detail : Detail) :
    severities [finding severity message detail] = [severity] := rfl

lemma severities_workload (a b : Manifest) (labelA labelB : String) :
    severities (workloadFindings a b labelA labelB) =
      if differingWorkload a b = [] then [] else [.error] := by
  rw [workloadFindings, apply_ite severities, differentWorkloads, severities_finding,
    severities_nil]

lemma severities_flags (labelA labelB : String) (cmdA cmdB : List Char) :
    severities (flagFindings labelA labelB cmdA cmdB) =
      if mismatchedFlags cmdA cmdB = [] then [] else [.error] := by
  rw [flagFindings, apply_ite severities, differentFlags, severities_finding, severities_nil]

lemma severities_unrecordedServer (label : String) :
    severities [unrecordedServer label] = [.warning] := by
  rw [unrecordedServer, severities_finding]

lemma severities_unrecordedHost (label : String) :
    severities [unrecordedHost label] = [.warning] := by
  rw [unrecordedHost, severities_finding]

lemma severities_verdict (crdb : Manifest) (labelA labelB labelA' labelB' : String)
    (command : List Char) (v : CacheVerdict) :
    severities (v.findings crdb labelA labelB command) =
      severities (v.findings crdb labelA' labelB' command) := by
  cases v with
  | equivalent => rfl
  | unknown x n => simp only [CacheVerdict.findings, severities_finding]
  | different x n relDiff => simp only [CacheVerdict.findings, severities_finding]

lemma severities_host (x y : Hardware) (labelA labelB : String) (accept : Bool) :
    severities (hostFindings (some x) (some y) labelA labelB accept) =
      if differingHardware x y = [] then [] else [if accept then .warning else .error] := by
  rw [hostFindings]
  by_cases h : differingHardware x y = []
  · rw [if_pos h, if_pos h, severities_nil]
  · rw [if_neg h, if_neg h]
    cases accept
    · simp [refusedHardware]
    · simp [acceptedHardware]

lemma severities_version (a b : Manifest) (labelA labelB : String) :
    severities (versionFindings a b labelA labelB) =
      if engine a ≠ engine b then [.warning] else if version a ≠ version b then [.error]
      else [] := by
  simp only [versionFindings, apply_ite severities, severities_finding, severities_nil]

/-- The severities of a check, in terms of those of its parts. -/
lemma severities_check (a b : Manifest) (labelA labelB : String) (accept : Bool) :
    (checkRunComparability a b labelA labelB accept).map severities = (do
      let server ← (serverFindings a b labelA labelB).map severities
      let hardware ← (hardwareFindings a b labelA labelB accept).map severities
      return severities (workloadFindings a b labelA labelB) ++ server ++ hardware ++
        severities (versionFindings a b labelA labelB)) := by
  unfold checkRunComparability
  cases serverFindings a b labelA labelB with
  | error e => rfl
  | ok server =>
    cases hardwareFindings a b labelA labelB accept with
    | error e => rfl
    | ok hardware =>
      change Except.ok _ = Except.ok _
      rw [severities_append, severities_append, severities_append]

/-! ### The other way round -/

variable {labelA labelB labelA' labelB' : String}

lemma workload_swap : severities (workloadFindings a b labelA labelB) =
    severities (workloadFindings b a labelA' labelB') := by
  rw [severities_workload, severities_workload]
  exact if_congr differing_comm_nil rfl rfl

lemma cache_swap (hne : engine a ≠ engine b) (cmdA cmdB : List Char) :
    (cacheFindings a b labelA labelB cmdA cmdB).map severities =
      (cacheFindings b a labelA' labelB' cmdB cmdA).map severities := by
  have hverdict : ∀ (m : Manifest) (l l' k k' : String) (cmd : List Char)
      (r : Except PyError CacheVerdict),
      (r.map (CacheVerdict.findings m l l' cmd)).map severities =
        (r.map (CacheVerdict.findings m k k' cmd)).map severities := by
    intro m l l' k k' cmd r
    cases r with
    | error e => rfl
    | ok v => exact congrArg Except.ok (severities_verdict m l l' k k' cmd v)
  unfold cacheFindings
  by_cases hab : engine a = "cockroachdb" ∧ engine b = "postgresql"
  · have hba : ¬ (engine b = "cockroachdb" ∧ engine a = "postgresql") := by
      rintro ⟨hb, -⟩
      exact hne (hab.1.trans hb.symm)
    rw [if_pos hab, if_neg hba, if_pos hab.symm]
    exact hverdict a labelA labelB labelB' labelA' cmdA _
  · by_cases hba : engine a = "postgresql" ∧ engine b = "cockroachdb"
    · rw [if_neg hab, if_pos hba, if_pos hba.symm]
      exact hverdict b labelB labelA labelA' labelB' cmdB _
    · rw [if_neg hab, if_neg hba, if_neg fun h => hba h.symm, if_neg fun h => hab h.symm]

lemma server_swap : (serverFindings a b labelA labelB).map severities =
    (serverFindings b a labelA' labelB').map severities := by
  unfold serverFindings
  cases serverCommand a with
  | none =>
    cases serverCommand b with
    | none => simp only [Except.map, severities_unrecordedServer]
    | some cmdB => simp only [Except.map, severities_unrecordedServer]
  | some cmdA =>
    cases serverCommand b with
    | none => simp only [Except.map, severities_unrecordedServer]
    | some cmdB =>
      by_cases he : engine a = engine b
      · have hflags : severities (flagFindings labelA labelB cmdA cmdB) =
            severities (flagFindings labelA' labelB' cmdB cmdA) := by
          rw [severities_flags, severities_flags]
          exact if_congr differing_comm_nil rfl rfl
        simp only [if_pos he, if_pos he.symm]
        exact congrArg Except.ok hflags
      · simp only [if_neg he, if_neg (Ne.symm he)]
        exact cache_swap he cmdA cmdB

lemma memoryDiffers_comm (ma mb : Option ℕ) : memoryDiffers ma mb = memoryDiffers mb ma := by
  cases ma with
  | none => cases mb <;> rfl
  | some x =>
    cases mb with
    | none => rfl
    | some y => simp only [memoryDiffers, abs_sub_comm (x : ℚ) y, max_comm (x : ℚ) y, Bool.and_comm]

lemma differingHardware_comm_nil {x y : Hardware} :
    differingHardware x y = [] ↔ differingHardware y x = [] := by
  unfold differingHardware
  rw [List.append_eq_nil_iff, List.append_eq_nil_iff, differing_comm_nil,
    memoryDiffers_comm x.memTotalKb]
  refine and_congr_right fun _ => ?_
  cases memoryDiffers y.memTotalKb x.memTotalKb <;> simp

lemma host_swap (ha hb : Option Hardware) (accept : Bool) :
    severities (hostFindings ha hb labelA labelB accept) =
      severities (hostFindings hb ha labelA' labelB' accept) := by
  cases ha with
  | none =>
    cases hb with
    | none => simp only [hostFindings, severities_unrecordedHost]
    | some y => simp only [hostFindings, severities_unrecordedHost]
  | some x =>
    cases hb with
    | none => simp only [hostFindings, severities_unrecordedHost]
    | some y =>
      rw [severities_host, severities_host]
      exact if_congr differingHardware_comm_nil rfl rfl

lemma hardware_swap (accept : Bool) :
    (hardwareFindings a b labelA labelB accept).map severities =
      (hardwareFindings b a labelA' labelB' accept).map severities := by
  unfold hardwareFindings
  cases ha : hostHardware a with
  | error e =>
    cases hb : hostHardware b with
    | error e' =>
      rw [hostHardware_error ha, hostHardware_error hb]
      rfl
    | ok y => rfl
  | ok x =>
    cases hb : hostHardware b with
    | error e => rfl
    | ok y => exact congrArg Except.ok (host_swap x y accept)

lemma version_swap : severities (versionFindings a b labelA labelB) =
    severities (versionFindings b a labelA' labelB') := by
  rw [severities_version, severities_version]
  simp only [ne_comm (a := engine a), ne_comm (a := version a)]

/-- The check the other way round ends alike, with findings of the same severities. -/
lemma check_swap (accept : Bool) :
    (checkRunComparability a b labelA labelB accept).map severities =
      (checkRunComparability b a labelA' labelB' accept).map severities := by
  have hserver : (serverFindings a b labelA labelB).map severities =
      (serverFindings b a labelA' labelB').map severities := server_swap
  have hhardware : (hardwareFindings a b labelA labelB accept).map severities =
      (hardwareFindings b a labelA' labelB' accept).map severities := hardware_swap accept
  have hworkload : severities (workloadFindings a b labelA labelB) =
      severities (workloadFindings b a labelA' labelB') := workload_swap
  have hversion : severities (versionFindings a b labelA labelB) =
      severities (versionFindings b a labelA' labelB') := version_swap
  rw [severities_check, severities_check, hserver, hhardware, hworkload, hversion]

/-! ### A run and itself -/

/-- No finding of these severities is an error. -/
def Clean (l : List Severity) : Prop := Severity.error ∉ l

lemma server_self (m : Manifest) (findings : List (Finding Detail))
    (h : serverFindings m m labelA labelB = .ok findings) : Clean (severities findings) := by
  unfold serverFindings at h
  cases hcmd : serverCommand m with
  | none =>
    rw [hcmd] at h
    cases h
    simp [Clean, severities_unrecordedServer]
  | some cmd =>
    have hflags : mismatchedFlags cmd cmd = [] :=
      differing_eq_nil_iff.mpr fun _ _ => eq_self_iff.mpr (textValue_ne_nan _)
    simp only [hcmd, if_true, Except.ok.injEq] at h
    rw [← h, severities_flags, if_pos hflags]
    simp [Clean]

lemma differingHardware_self (h : Hardware) : differingHardware h h = [] := by
  have hmemory : memoryDiffers h.memTotalKb h.memTotalKb = false := by
    cases h.memTotalKb with
    | none => rfl
    | some x => simp [memoryDiffers, memoryTolerance]
  have hexact : differing ["cpus", "cpu_model"] (Hardware.value h) (Hardware.value h) = [] :=
    differing_eq_nil_iff.mpr fun _ _ => eq_self_iff.mpr (value_ne_nan h _)
  simp [differingHardware, hexact, hmemory]

lemma host_self (h : Option Hardware) (accept : Bool) :
    Clean (severities (hostFindings h h labelA labelB accept)) := by
  cases h with
  | none => simp [Clean, hostFindings, severities_unrecordedHost]
  | some x =>
    rw [severities_host, if_pos (differingHardware_self x)]
    simp [Clean]

lemma hardware_self (m : Manifest) (accept : Bool) (findings : List (Finding Detail))
    (h : hardwareFindings m m labelA labelB accept = .ok findings) :
    Clean (severities findings) := by
  unfold hardwareFindings at h
  cases hm : hostHardware m with
  | error e =>
    rw [hm] at h
    cases h
  | ok x =>
    rw [hm] at h
    cases h
    exact host_self x accept

lemma version_self (m : Manifest) :
    Clean (severities (versionFindings m m labelA labelB)) := by
  simp [severities_version, Clean]

/-- Of a run and itself only the workload can differ, and only where nothing equals it. -/
lemma workload_self (m : Manifest) :
    Clean (severities (workloadFindings m m labelA labelB)) ↔
      ∀ key ∈ matchedWorkloadKeys, m.parameter key ≠ .float .nan := by
  have hiff : differingWorkload m m = [] ↔
      ∀ key ∈ matchedWorkloadKeys, m.parameter key ≠ .float .nan := by
    simp only [differingWorkload, differing_eq_nil_iff, eq_self_iff]
  rw [severities_workload, ← hiff]
  split_ifs with hnil
  · simp [Clean, hnil]
  · simp [Clean, hnil]

/-! ### The verdict -/

def errors (report : ValidationReport Detail) : ℕ := (severities report.findings).count .error

def warnings (report : ValidationReport Detail) : ℕ := (severities report.findings).count .warning

lemma ok_iff_clean (report : ValidationReport Detail) :
    report.ok = true ↔ Clean (severities report.findings) := by
  simp [ValidationReport.ok, Clean, severities]

lemma clean_append {l l' : List Severity} : Clean (l ++ l') ↔ Clean l ∧ Clean l' := by
  simp [Clean]

/-- **The verdict does not tell the first run from the second**, whatever the labels: the
check the other way round completes as well, with as many errors and warnings. **Of a run and
itself it is good** unless a compared parameter is not a number. -/
theorem symmetric_and_reflexive (a b : Manifest) (accept : Bool)
    (labelA labelB labelA' labelB' : String) :
    (∀ report, validateComparison a b labelA labelB accept = .ok report →
      ∃ report', validateComparison b a labelA' labelB' accept = .ok report' ∧
        report'.ok = report.ok ∧ errors report' = errors report ∧
        warnings report' = warnings report) ∧
    ∀ report, validateComparison a a labelA labelB accept = .ok report →
      (report.ok = true ↔ ∀ key ∈ matchedWorkloadKeys, a.parameter key ≠ .float .nan) := by
  refine ⟨fun report h => ?_, fun report h => ?_⟩
  · have hcheck := validate_eq_ok_iff.mp h
    have hswap : (checkRunComparability b a labelA' labelB' accept).map severities =
        .ok (severities report.findings) := by
      have hab : (checkRunComparability a b labelA labelB accept).map severities =
          (checkRunComparability b a labelA' labelB' accept).map severities := check_swap accept
      rw [← hab, hcheck]
      rfl
    cases hba : checkRunComparability b a labelA' labelB' accept with
    | error e =>
      rw [hba] at hswap
      cases hswap
    | ok findings =>
      rw [hba] at hswap
      have hsev : severities findings = severities report.findings := Except.ok.inj hswap
      refine ⟨⟨findings⟩, validate_eq_ok_iff.mpr hba, ?_, ?_, ?_⟩
      · rw [Bool.eq_iff_iff, ok_iff_clean, ok_iff_clean, hsev]
      · rw [errors, errors, hsev]
      · rw [warnings, warnings, hsev]
  · obtain ⟨server, hardware, hserver, hhardware, hfindings⟩ :=
      check_eq_ok_iff.mp (validate_eq_ok_iff.mp h)
    rw [ok_iff_clean, ← hfindings]
    simp only [severities_append, clean_append, workload_self, server_self a server hserver,
      hardware_self a accept hardware hhardware, version_self, and_true]

/-- A run of the generator with the recorded read share. -/
def recorded (readFreq : Value) : Manifest where
  engine := some "cockroachdb"
  profile := some ⟨some [("generator", .str "ycsb"), ("read_freq", readFreq), ("seed", .int 42)]⟩
  serverVersion := some "v24.1.0"
  notes := some
    ["2026-09-03T00:00:00Z server: cockroach start --cache=.25 --max-sql-memory=.25",
     "2026-09-03T00:00:00Z host: cpus=2 mem_total_kb=4007012 cpu_model=Intel(R) Xeon(R) CPU"]

/-- The report on this run and itself is good. -/
theorem recorded_ok :
    ∃ report, validateComparison (recorded (.float (.finite (4 / 5))))
      (recorded (.float (.finite (4 / 5)))) "A" "B" false = .ok report ∧ report.ok = true := by
  have hcheck : validateComparison (recorded (.float (.finite (4 / 5))))
      (recorded (.float (.finite (4 / 5)))) "A" "B" false = .ok ⟨[]⟩ := by
    decide +kernel
  refine ⟨⟨[]⟩, hcheck, ?_⟩
  refine ((symmetric_and_reflexive _ (recorded .none) false "A" "B" "A" "B").2 _ hcheck).mpr ?_
  decide +kernel

/-- A run whose read share is not a number does not compare with itself. -/
theorem nan_differs_from_itself :
    ∃ report, validateComparison (recorded (.float .nan)) (recorded (.float .nan)) "A" "B" false =
      .ok report ∧ report.ok = false := by
  refine ⟨⟨workloadFindings (recorded (.float .nan)) (recorded (.float .nan)) "A" "B"⟩, ?_, ?_⟩
  · decide +kernel
  · decide +kernel

end CrdbLab.ComparabilitySymmetry
