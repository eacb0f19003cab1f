import CrdbLab.Comparability
import Mathlib.Data.List.Forall2

/-!
The override for a difference of hosts.

With it and without it the check finds the same, in the same order, but for the error that the
hosts differ: that one becomes a warning on the same fields.
-/

namespace CrdbLab.HardwareOverride

open CrdbLab.ManifestNotes CrdbLab.Comparability
open CrdbLab.Validation (Finding Severity ValidationReport)

/-- The error that the hosts differ. -/
def HardwareError (f : Finding Detail) : Prop :=
  f.severity = .error ∧ ∃ differences, f.detail = .differingHardware differences false

/-- What the override makes of a finding. -/
inductive Excused : Finding Detail → Finding Detail → Prop
  | kept {f : Finding Detail} (h : ¬ HardwareError f) : Excused f f
  | accepted {f g : Finding Detail} {differences : List Difference}
      (hf : f.severity = .error) (hfd : f.detail = .differingHardware differences false)
      (hg : g.severity = .warning) (hgd : g.detail = .differingHardware differences true) :
      Excused f g

lemma excused_self {findings : List (Finding Detail)} (h : ∀ f ∈ findings, ¬ HardwareError f) :
    List.Forall₂ Excused findings findings :=
  List.forall₂_same.mpr fun f hf => .kept (h f hf)

/-! ### Findings that are not of the hosts -/

lemma singleton_not_hardware {g : Finding Detail}
    (h : ∀ differences, g.detail ≠ .differingHardware differences false) :
    ∀ f ∈ [g], ¬ HardwareError f := by
  rintro f hf ⟨-, differences, hdetail⟩
  rw [List.mem_singleton.mp hf] at hdetail
  exact h differences hdetail

lemma workload_not_hardware {a b : Manifest} {labelA labelB : String} :
    ∀ f ∈ workloadFindings a b labelA labelB, ¬ HardwareError f := by
  unfold workloadFindings
  split_ifs
  · simp
  · exact singleton_not_hardware fun _ => by simp [differentWorkloads]

lemma flag_not_hardware {labelA labelB : String} {cmdA cmdB : List Char} :
    ∀ f ∈ flagFindings labelA labelB cmdA cmdB, ¬ HardwareError f := by
  unfold flagFindings
  split_ifs
  · simp
  · exact singleton_not_hardware fun _ => by simp [differentFlags]

lemma verdict_not_hardware {crdb : Manifest} {crdbLabel pgLabel : String} {command : List Char}
    (v : CacheVerdict) : ∀ f ∈ v.findings crdb crdbLabel pgLabel command, ¬ HardwareError f := by
  cases v with
  | equivalent => simp [CacheVerdict.findings]
  | unknown x n => exact singleton_not_hardware fun _ => by simp
  | different x n relDiff => exact singleton_not_hardware fun _ => by simp

lemma cache_not_hardware {a b : Manifest} {labelA labelB : String} {cmdA cmdB : List Char}
    {findings : List (Finding Detail)}
    (h : cacheFindings a b labelA labelB cmdA cmdB = .ok findings) :
    ∀ f ∈ findings, ¬ HardwareError f := by
  have hverdict : ∀ {m : Manifest} {l l' : String} {cmd : List Char}
      {r : Except PyError CacheVerdict}, r.map (CacheVerdict.findings m l l' cmd) = .ok findings →
      ∀ f ∈ findings, ¬ HardwareError f := by
    intro m l l' cmd r hr
    cases r with
    | error e => cases hr
    | ok v =>
      cases hr
      exact verdict_not_hardware v
  unfold cacheFindings at h
  split_ifs at h
  · exact hverdict h
  · exact hverdict h
  · cases h
    simp

lemma server_not_hardware {a b : Manifest} {labelA labelB : String}
    {findings : List (Finding Detail)} (h : serverFindings a b labelA labelB = .ok findings) :
    ∀ f ∈ findings, ¬ HardwareError f := by
  unfold serverFindings at h
  split at h
  · split_ifs at h
    · cases h
      exact flag_not_hardware
    · exact cache_not_hardware h
  · cases h
    exact singleton_not_hardware fun _ => by simp [unrecordedServer]

lemma version_not_hardware {a b : Manifest} {labelA labelB : String} :
    ∀ f ∈ versionFindings a b labelA labelB, ¬ HardwareError f := by
  simp only [versionFindings]
  split_ifs
  · exact singleton_not_hardware fun _ => by simp
  · exact singleton_not_hardware fun _ => by simp
  · simp

/-! ### Findings of the hosts -/

lemma excused_refused (labelA labelB : String) (differences : List Difference) :
    Excused (refusedHardware labelA labelB differences)
      (acceptedHardware labelA labelB differences) := by
  have hrefused : (refusedHardware labelA labelB differences).detail =
      .differingHardware differences false := by simp [refusedHardware]
  have haccepted : (acceptedHardware labelA labelB differences).detail =
      .differingHardware differences true := by simp [acceptedHardware]
  exact .accepted (by simp [refusedHardware]) hrefused (by simp [acceptedHardware]) haccepted

lemma host_excused (ha hb : Option Hardware) (labelA labelB : String) :
    List.Forall₂ Excused (hostFindings ha hb labelA labelB false)
      (hostFindings ha hb labelA labelB true) := by
  have hunrecorded : ∀ label, List.Forall₂ Excused [unrecordedHost label] [unrecordedHost label] :=
    fun label => excused_self (singleton_not_hardware fun _ => by simp [unrecordedHost])
  cases ha with
  | none => exact hunrecorded _
  | some x =>
    cases hb with
    | none => exact hunrecorded _
    | some y =>
      by_cases h : differingHardware x y = []
      · simp [hostFindings, h]
      · simp only [hostFindings, if_neg h, if_true, Bool.false_eq_true, if_false]
        exact .cons (excused_refused labelA labelB _) .nil

/-- An error with the override is one without it that is not of the hosts. -/
lemma exists_error_iff {findings excused : List (Finding Detail)}
    (h : List.Forall₂ Excused findings excused) :
    (∃ g ∈ excused, g.severity = .error) ↔
      ∃ f ∈ findings, f.severity = .error ∧ ¬ HardwareError f := by
  induction h with
  | nil => simp
  | @cons f g findings excused hfg _ ih =>
    simp only [List.exists_mem_cons_iff, ih]
    refine or_congr_left ?_
    cases hfg with
    | kept hkept => simp [hkept]
    | accepted hf hfd hg hgd =>
      have herror : HardwareError f := ⟨hf, _, hfd⟩
      simp [hg, herror]

lemma hardware_excused (a b : Manifest) (labelA labelB : String) :
    (∃ e, hardwareFindings a b labelA labelB false = .error e ∧
      hardwareFindings a b labelA labelB true = .error e) ∨
    ∃ refused accepted, hardwareFindings a b labelA labelB false = .ok refused ∧
      hardwareFindings a b labelA labelB true = .ok accepted ∧
      List.Forall₂ Excused refused accepted := by
  unfold hardwareFindings
  cases hostHardware a with
  | error e => exact Or.inl ⟨e, rfl, rfl⟩
  | ok x =>
    cases hostHardware b with
    | error e => exact Or.inl ⟨e, rfl, rfl⟩
    | ok y => exact Or.inr ⟨_, _, rfl, rfl, host_excused x y labelA labelB⟩

lemma check_excused (a b : Manifest) (labelA labelB : String) :
    (∃ e, checkRunComparability a b labelA labelB false = .error e ∧
      checkRunComparability a b labelA labelB true = .error e) ∨
    ∃ findings excused, checkRunComparability a b labelA labelB false = .ok findings ∧
      checkRunComparability a b labelA labelB true = .ok excused ∧
      List.Forall₂ Excused findings excused := by
  have hrest (accept : Bool) : checkRunComparability a b labelA labelB accept = (do
      let server ← serverFindings a b labelA labelB
      let hardware ← hardwareFindings a b labelA labelB accept
      return workloadFindings a b labelA labelB ++ server ++ hardware ++
        versionFindings a b labelA labelB) := rfl
  rw [hrest, hrest]
  cases hserver : serverFindings a b labelA labelB with
  | error e => exact Or.inl ⟨e, rfl, rfl⟩
  | ok server =>
    rcases hardware_excused a b labelA labelB with ⟨e, hfalse, htrue⟩ |
      ⟨refused, accepted, hfalse, htrue, hexcused⟩
    · rw [hfalse, htrue]
      exact Or.inl ⟨e, rfl, rfl⟩
    · rw [hfalse, htrue]
      have hwork : List.Forall₂ Excused (workloadFindings a b labelA labelB)
          (workloadFindings a b labelA labelB) := excused_self workload_not_hardware
      have hversion : List.Forall₂ Excused (versionFindings a b labelA labelB)
          (versionFindings a b labelA labelB) := excused_self version_not_hardware
      have hall := List.rel_append (List.rel_append (List.rel_append hwork
        (excused_self (server_not_hardware hserver))) hexcused) hversion
      exact Or.inr ⟨_, _, rfl, rfl, hall⟩

/-- **The override is for the hosts only**: with it the check ends in the same exception, or it
finds the same in the same order with the error that the hosts differ excused; and the
comparison is refused exactly when there is another error. -/
theorem override_scoped (a b : Manifest) (labelA labelB : String) :
    (∃ e, checkRunComparability a b labelA labelB false = .error e ∧
      checkRunComparability a b labelA labelB true = .error e) ∨
    ∃ findings excused, checkRunComparability a b labelA labelB false = .ok findings ∧
      checkRunComparability a b labelA labelB true = .ok excused ∧
      List.Forall₂ Excused findings excused ∧
      ∃ report, validateComparison a b labelA labelB true = .ok report ∧
        (report.ok = false ↔ ∃ f ∈ findings, f.severity = .error ∧ ¬ HardwareError f) := by
  rcases check_excused a b labelA labelB with herror |
    ⟨findings, excused, hfalse, htrue, hexcused⟩
  · exact Or.inl herror
  · refine Or.inr ⟨findings, excused, hfalse, htrue, hexcused, ⟨excused⟩, ?_, ?_⟩
    · exact validate_eq_ok_iff.mpr htrue
    · rw [← exists_error_iff hexcused]
      simp [ValidationReport.ok]

end CrdbLab.HardwareOverride
