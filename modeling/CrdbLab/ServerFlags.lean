import CrdbLab.ComparabilitySymmetry

/-!
The flags of the command line that a server was started with.

A flag may carry its value behind an equals sign or have it as the next word. Of the recorded
command each word is read for itself, so that a flag in the second spelling is read with an
empty value, and two commands that give it different values read alike.
-/

namespace CrdbLab.ServerFlags

open CrdbLab.Lib.Fields CrdbLab.Lib.Numeral
open CrdbLab.ManifestNotes CrdbLab.Comparability CrdbLab.ComparabilitySymmetry
open CrdbLab.Validation (Finding Severity ValidationReport)

/-! ### The two spellings -/

/-- The words of a command line. -/
def tokens (command : List Char) : List (List Char) := pieces isSpace command

/-- The value behind the equals sign of a word for the flag. -/
def inlineValue (name token : List Char) : Option (List Char) :=
  if (name ++ ['=']).isPrefixOf token then some (token.drop (name.length + 1)) else none

/-- The value given to a flag, in either spelling; the last one counts. -/
def given (name : List Char) : List (List Char) → Option (List Char)
  | [] => none
  | [t] => inlineValue name t
  | t :: v :: rest =>
    if t = name then (given name rest).or (some v)
    else (given name (v :: rest)).or (inlineValue name t)

/-- What a word for the flag carries itself: nothing where it is the bare flag. -/
def carried (name token : List Char) : Option (List Char) :=
  if token = name then some [] else inlineValue name token

/-- What the last word for the flag carries. -/
def written (name : List Char) : List (List Char) → Option (List Char)
  | [] => none
  | t :: rest => (written name rest).or (carried name t)

/-- A name that a flag can have. -/
structure FlagName (name : List Char) : Prop where
  dashes : "--".toList <+: name
  noSign : '=' ∉ name

lemma flagName_of_matched {name : String} (h : name ∈ matchedServerFlags) :
    FlagName name.toList := by
  have hall : ∀ n ∈ matchedServerFlags, "--".toList <+: n.toList ∧ '=' ∉ n.toList := by decide
  exact ⟨(hall name h).1, (hall name h).2⟩

lemma inlineValue_append (name v : List Char) : inlineValue name (name ++ '=' :: v) = some v := by
  have hp : (name ++ ['=']).isPrefixOf (name ++ '=' :: v) = true := by
    rw [List.isPrefixOf_iff_prefix]
    exact ⟨v, by simp⟩
  rw [inlineValue, if_pos hp]
  simp

lemma inlineValue_eq_none {name token : List Char} (h : ∀ v, token ≠ name ++ '=' :: v) :
    inlineValue name token = none := by
  refine if_neg fun hp => ?_
  obtain ⟨v, hv⟩ := List.isPrefixOf_iff_prefix.mp hp
  exact h v (by rw [← hv]; simp)

/-- In the spelling with equals signs alone, the value that is given is the one written. -/
lemma given_eq_written {name : List Char} : ∀ {ts : List (List Char)}, name ∉ ts →
    given name ts = written name ts
  | [], _ => rfl
  | [t], h => by
    have ht : t ≠ name := fun heq => h (by simp [heq])
    simp [given, written, carried, ht]
  | t :: v :: rest, h => by
    have ht : t ≠ name := fun heq => h (by simp [heq])
    have ih : given name (v :: rest) = written name (v :: rest) :=
      given_eq_written fun hm => h (List.mem_cons_of_mem t hm)
    calc given name (t :: v :: rest)
        = (given name (v :: rest)).or (inlineValue name t) := by rw [given, if_neg ht]
      _ = (written name (v :: rest)).or (carried name t) := by rw [ih, carried, if_neg ht]
      _ = written name (t :: v :: rest) := rfl

/-! ### The flags that are read -/

/-- A word is read as what it carries, if it is one for the flag. -/
lemma read_token {name t : List Char} (hname : FlagName name) :
    (if "--".toList <+: t ∧ name = t.takeWhile (· ≠ '=') then
      some ((after ['='] t).getD []) else none) = carried name t := by
  by_cases hsign : '=' ∈ t
  · obtain ⟨w, v, rfl, hw⟩ := List.eq_append_cons_of_mem hsign
    have hbare : w ++ '=' :: v ≠ name := fun h => hname.noSign (h ▸ hsign)
    rw [takeWhile_append_cons hw, after_sign hw, carried, if_neg hbare]
    by_cases hk : name = w
    · subst hk
      rw [if_pos ⟨hname.dashes.trans (List.prefix_append name _), rfl⟩, inlineValue_append]
      rfl
    · rw [if_neg fun h => hk h.2, inlineValue_eq_none]
      intro v' hv'
      have hcut := congrArg (List.takeWhile (· ≠ '=')) hv'
      rw [takeWhile_append_cons hw, takeWhile_append_cons hname.noSign] at hcut
      exact hk hcut.symm
  · have hinline : inlineValue name t = none :=
      inlineValue_eq_none fun v hv => hsign (hv ▸ by simp)
    rw [takeWhile_of_absent hsign, after_eq_none (List.mem_singleton_self _) hsign, carried,
      hinline]
    by_cases hk : t = name
    · subst hk
      rw [if_pos ⟨hname.dashes, rfl⟩, if_pos rfl]
      rfl
    · rw [if_neg fun h => hk h.2.symm, if_neg hk]

lemma lastOf_serverFlags {name : List Char} (hname : FlagName name) (ts : List (List Char)) :
    lastOf name ((ts.filter fun token => "--".toList.isPrefixOf token).map fun token =>
      (token.takeWhile (· ≠ '='), (after ['='] token).getD [])) = written name ts := by
  induction ts with
  | nil => rfl
  | cons t ts ih =>
    rw [written, ← ih, ← read_token hname]
    by_cases hdash : "--".toList <+: t
    · have hp := List.isPrefixOf_iff_prefix.mpr hdash
      rw [List.filter_cons_of_pos hp, List.map_cons, lastOf_cons]
      simp only [hdash, true_and]
    · have hp : ¬ "--".toList.isPrefixOf t = true := by
        rwa [List.isPrefixOf_iff_prefix]
      rw [List.filter_cons_of_neg hp, if_neg fun h => hdash h.1, Option.or_none]

/-- **What is read for a flag** is what the last word for it carries. -/
lemma flag_eq_written {name : String} (hname : FlagName name.toList) (command : List Char) :
    flag command name = written name.toList (tokens command) :=
  lastOf_serverFlags hname (tokens command)

/-! ### What is reported -/

variable {a b : Manifest} {cmdA cmdB : List Char} {labelA labelB : String} {accept : Bool}

/-- The commands give one of the flags different values. -/
def GivenDiffer (cmdA cmdB : List Char) : Prop :=
  ∃ name ∈ matchedServerFlags, given name.toList (tokens cmdA) ≠ given name.toList (tokens cmdB)

/-- The last words of the commands for one of the flags carry different values. -/
def WrittenDiffer (cmdA cmdB : List Char) : Prop :=
  ∃ name ∈ matchedServerFlags, written name.toList (tokens cmdA) ≠ written name.toList (tokens cmdB)

/-- Both hosts are recorded and differ. -/
def HostsDiffer (a b : Manifest) : Prop :=
  ∃ x y, hostHardware a = .ok (some x) ∧ hostHardware b = .ok (some y) ∧ differingHardware x y ≠ []

/-- Two runs of one engine differ in something else that is an error. -/
def OtherwiseDiffer (a b : Manifest) (accept : Bool) : Prop :=
  (∃ key ∈ matchedWorkloadKeys, Value.eq (a.parameter key) (b.parameter key) = false) ∨
    (accept = false ∧ HostsDiffer a b) ∨ version a ≠ version b

/-- The check completes and reports an error. -/
def ReportsError (a b : Manifest) (labelA labelB : String) (accept : Bool) : Prop :=
  ∃ findings, checkRunComparability a b labelA labelB accept = .ok findings ∧
    .error ∈ severities findings

/-- The one error that stands for a list of differences. -/
lemma error_mem_ite {α : Type} {differences : List α} [Decidable (differences = [])] :
    Severity.error ∈ (if differences = [] then [] else [Severity.error]) ↔ differences ≠ [] := by
  split_ifs with h <;> simp [h]

lemma error_mem_workload : Severity.error ∈ severities (workloadFindings a b labelA labelB) ↔
    ∃ key ∈ matchedWorkloadKeys, Value.eq (a.parameter key) (b.parameter key) = false := by
  rw [severities_workload, error_mem_ite, ne_eq, differingWorkload, differing_eq_nil_iff]
  simp

lemma eq_textValue_iff {s t : Option (List Char)} :
    Value.eq (textValue s) (textValue t) = true ↔ s = t := by
  cases s <;> cases t <;> simp [textValue, Value.eq, Value.number?, String.ofList_inj]

lemma error_mem_flags : Severity.error ∈ severities (flagFindings labelA labelB cmdA cmdB) ↔
    WrittenDiffer cmdA cmdB := by
  rw [severities_flags, error_mem_ite, ne_eq, mismatchedFlags, differing_eq_nil_iff]
  simp only [eq_textValue_iff, WrittenDiffer, not_forall, exists_prop]
  refine exists_congr fun name => and_congr_right fun hname => not_congr ?_
  rw [flag_eq_written (flagName_of_matched hname), flag_eq_written (flagName_of_matched hname)]

lemma error_mem_host {ha hb : Option Hardware} :
    Severity.error ∈ severities (hostFindings ha hb labelA labelB accept) ↔
      accept = false ∧ ∃ x y, ha = some x ∧ hb = some y ∧ differingHardware x y ≠ [] := by
  cases ha with
  | none => simp [hostFindings, severities_unrecordedHost]
  | some x =>
    cases hb with
    | none => simp [hostFindings, severities_unrecordedHost]
    | some y =>
      rw [severities_host]
      cases accept with
      | false => by_cases h : differingHardware x y = [] <;> simp [h]
      | true => by_cases h : differingHardware x y = [] <;> simp [h]

lemma error_mem_version (hengine : engine a = engine b) :
    Severity.error ∈ severities (versionFindings a b labelA labelB) ↔ version a ≠ version b := by
  rw [severities_version]
  by_cases h : version a = version b <;> simp [hengine, h]

/-- When the check of two runs of one engine whose commands are recorded has an error. -/
lemma reportsError_iff (hengine : engine a = engine b) (ha : serverCommand a = some cmdA)
    (hb : serverCommand b = some cmdB) :
    ReportsError a b labelA labelB accept ↔ HostReadable a ∧ HostReadable b ∧
      (WrittenDiffer cmdA cmdB ∨ OtherwiseDiffer a b accept) := by
  have hserver : serverFindings a b labelA labelB =
      .ok (flagFindings labelA labelB cmdA cmdB) := by
    simp [serverFindings, ha, hb, hengine]
  have herror (x y : Option Hardware) (hx : hostHardware a = .ok x) (hy : hostHardware b = .ok y) :
      Severity.error ∈ severities (workloadFindings a b labelA labelB ++
        flagFindings labelA labelB cmdA cmdB ++ hostFindings x y labelA labelB accept ++
        versionFindings a b labelA labelB) ↔
      WrittenDiffer cmdA cmdB ∨ OtherwiseDiffer a b accept := by
    simp only [severities_append, List.mem_append, error_mem_workload, error_mem_flags,
      error_mem_host, error_mem_version hengine, OtherwiseDiffer, HostsDiffer, hx, hy,
      Except.ok.injEq]
    rw [or_assoc, or_assoc, or_left_comm]
  constructor
  · rintro ⟨findings, hcheck, hmem⟩
    obtain ⟨server, hardware, hs, hh, rfl⟩ := check_eq_ok_iff.mp hcheck
    obtain ⟨x, y, hx, hy, rfl⟩ := hardwareFindings_eq_ok_iff.mp hh
    cases hserver.symm.trans hs
    exact ⟨completes_hostHardware.mp ⟨x, hx⟩, completes_hostHardware.mp ⟨y, hy⟩,
      (herror x y hx hy).mp hmem⟩
  · rintro ⟨hra, hrb, hdiffer⟩
    obtain ⟨x, hx⟩ := completes_hostHardware.mpr hra
    obtain ⟨y, hy⟩ := completes_hostHardware.mpr hrb
    have hhosts : hardwareFindings a b labelA labelB accept =
        .ok (hostFindings x y labelA labelB accept) :=
      hardwareFindings_eq_ok_iff.mpr ⟨x, y, hx, hy, rfl⟩
    exact ⟨_, check_eq_ok_iff.mpr ⟨_, _, hserver, hhosts, rfl⟩, (herror x y hx hy).mpr hdiffer⟩

/-- **When a difference of the caches is noticed** between two runs of one engine whose commands
are recorded: where the commands give the same values; and otherwise where the hosts can be read
and the last words for a flag carry different values, or the runs differ in something else. -/
theorem difference_noticed_iff (a b : Manifest) (cmdA cmdB : List Char) (labelA labelB : String)
    (accept : Bool) (hengine : engine a = engine b) (ha : serverCommand a = some cmdA)
    (hb : serverCommand b = some cmdB) :
    (GivenDiffer cmdA cmdB → ReportsError a b labelA labelB accept) ↔
      ¬ GivenDiffer cmdA cmdB ∨ (HostReadable a ∧ HostReadable b ∧
        (WrittenDiffer cmdA cmdB ∨ OtherwiseDiffer a b accept)) := by
  rw [reportsError_iff hengine ha hb, imp_iff_not_or]

/-- A run of the server started so. -/
def started (command : String) : Manifest where
  engine := some "cockroachdb"
  serverVersion := some "v24.1.0"
  notes := some
    ["2026-09-03T00:00:00Z server: " ++ command,
     "2026-09-03T00:00:00Z host: cpus=2 mem_total_kb=4007012 cpu_model=Intel(R) Xeon(R) CPU"]

/-- Values behind equals signs are told apart. -/
theorem inline_noticed :
    ReportsError (started "cockroach start --cache=.25") (started "cockroach start --cache=.5")
      "A" "B" false := by
  refine (difference_noticed_iff _ _ "cockroach start --cache=.25".toList
    "cockroach start --cache=.5".toList "A" "B" false (by decide +kernel) (by decide +kernel)
    (by decide +kernel)).mpr (Or.inr ⟨?_, ?_, Or.inl ⟨"--cache", ?_, ?_⟩⟩) ⟨"--cache", ?_, ?_⟩
  · exact completes_hostHardware.mp ⟨_, rfl⟩
  · exact completes_hostHardware.mp ⟨_, rfl⟩
  · decide +kernel
  · decide +kernel
  · decide +kernel
  · decide +kernel

/-- Values in the next word are not: a quarter and a half of the memory pass as equal. -/
theorem next_word_unnoticed :
    engine (started "cockroach start --cache .25") =
      engine (started "cockroach start --cache .5") ∧
    serverCommand (started "cockroach start --cache .25") =
      some "cockroach start --cache .25".toList ∧
    serverCommand (started "cockroach start --cache .5") =
      some "cockroach start --cache .5".toList ∧
    given "--cache".toList (tokens "cockroach start --cache .25".toList) = some ".25".toList ∧
    given "--cache".toList (tokens "cockroach start --cache .5".toList) = some ".5".toList ∧
    checkRunComparability (started "cockroach start --cache .25")
      (started "cockroach start --cache .5") "A" "B" false = .ok [] := by
  decide +kernel

end CrdbLab.ServerFlags
