import CrdbLab.Comparability

/-!
When the comparison of two runs completes.

A note may hold a digit string that is no integer to `int`. Between CockroachDB and PostgreSQL
the difference of the two caches is divided by the larger one, which is zero where PostgreSQL's
is zero and the share that the other takes of its memory is not positive; and an integer beyond
the range of a double does not take part in the arithmetic. Nothing else raises.
-/

namespace CrdbLab.ComparabilityArithmetic

open CrdbLab.Lib.Extended CrdbLab.Lib.Fallible
open CrdbLab.ManifestNotes CrdbLab.Comparability

/-! ### The larger cache -/

/-- A number that is not positive. -/
def AtMostZero (x : Number) : Prop := Number.le x (.finite 0) = true

instance (x : Number) : Decidable (AtMostZero x) :=
  inferInstanceAs (Decidable (Number.le x (.finite 0) = true))

lemma atMostZero_finite {q : ℚ} : AtMostZero (.finite q) ↔ q ≤ 0 := by
  simp [AtMostZero, Number.le, Number.lt, le_iff_lt_or_eq]

lemma atMostZero_infinite {negative : Bool} :
    AtMostZero (.infinite negative) ↔ negative = true := by
  cases negative <;> decide

lemma not_atMostZero_nan : ¬ AtMostZero .nan := by decide

/-- The sign of a number survives the product with a positive one. -/
lemma atMostZero_scaled {x : Number} {n : ℕ} (hn : n ≠ 0) :
    AtMostZero (scaled x n) ↔ AtMostZero x := by
  have hpos : (0 : ℚ) < n := by exact_mod_cast Nat.pos_of_ne_zero hn
  cases x with
  | infinite negative => rfl
  | nan => rfl
  | finite q =>
    have hsign : q * n ≤ 0 ↔ q ≤ 0 :=
      ⟨fun h => nonpos_of_mul_nonpos_left h hpos,
        fun h => mul_nonpos_of_nonpos_of_nonneg h hpos.le⟩
    rw [atMostZero_finite, ← hsign, scaled, Number.ofRat]
    split_ifs with hrange
    · exact atMostZero_finite
    · have hne : q * n ≠ 0 := by
        intro h
        rw [h, abs_zero] at hrange
        exact hrange (sub_pos.mpr (pow_lt_pow_right₀ one_lt_two (by norm_num)))
      rw [atMostZero_infinite, decide_eq_true_eq, le_iff_lt_or_eq, or_iff_left hne]

/-- The larger of the two caches. -/
lemma larger_eq_zero_iff {x : Number} {n : ℕ} :
    (if Number.lt x (.finite n) then .finite (n : ℚ) else x) = Number.finite 0 ↔
      n = 0 ∧ AtMostZero x := by
  cases x with
  | finite q =>
    have hn : (0 : ℚ) ≤ n := n.cast_nonneg
    rw [atMostZero_finite]
    by_cases h : q < n
    · simp only [Number.lt, h, decide_true, if_true, Number.finite.injEq, Nat.cast_eq_zero]
      refine ⟨fun h0 => ⟨h0, ?_⟩, And.left⟩
      rw [h0, Nat.cast_zero] at h
      exact h.le
    · simp only [Number.lt, h, decide_false, Bool.false_eq_true, if_false, Number.finite.injEq]
      have hle : (n : ℚ) ≤ q := not_lt.mp h
      constructor
      · rintro rfl
        exact ⟨by exact_mod_cast le_antisymm hle hn, le_rfl⟩
      · rintro ⟨rfl, hq⟩
        exact le_antisymm hq (by simpa using hle)
  | infinite negative =>
    rw [atMostZero_infinite]
    cases negative <;> simp [Number.lt]
  | nan => simp [Number.lt, not_atMostZero_nan]

lemma toDouble_eq_ok_iff {n : ℕ} {q : ℚ} :
    toDouble n = .ok q ↔ (n : ℚ) < Number.overflowBound ∧ (n : ℚ) = q := by
  unfold toDouble
  split_ifs with h <;> simp [h]

/-- The relative difference is computed unless the larger cache is nothing. -/
lemma completes_relativeDifference {x : Number} {n : ℕ} :
    Completes (relativeDifference x n) ↔
      (n : ℚ) < Number.overflowBound ∧ ¬ (n = 0 ∧ AtMostZero x) := by
  unfold relativeDifference
  rw [completes_bind]
  constructor
  · rintro ⟨q, hq, hcompletes⟩
    obtain ⟨hrange, rfl⟩ := toDouble_eq_ok_iff.mp hq
    refine ⟨hrange, fun h => ?_⟩
    simp only [larger_eq_zero_iff.mpr h, if_true] at hcompletes
    exact not_completes_error _ hcompletes
  · rintro ⟨hrange, hzero⟩
    refine ⟨n, toDouble_eq_ok_iff.mpr ⟨hrange, rfl⟩, ?_⟩
    have hlarger := larger_eq_zero_iff.not.mpr hzero
    simp only [if_neg hlarger, completes_pure]

/-! ### The two caches -/

/-- The memory of the host, if it is recorded. -/
def hostMemory (m : Manifest) : Option ℕ :=
  match hostHardware m with
  | .ok hw => hw.bind Hardware.memTotalKb
  | .error _ => none

/-- The memory that PostgreSQL shares, if it is recorded. -/
def sharedBuffers (m : Manifest) : Option ℕ :=
  match pgCacheConfig m with
  | .ok memory => memory.bind PgMemory.sharedBuffersKb
  | .error _ => none

/-- CockroachDB was given the share `x` of the memory `mem`, and both can be told. -/
def Shares (m : Manifest) (command : List Char) (x : Number) (mem : ℕ) : Prop :=
  mem ≠ 0 ∧ hostMemory m = some mem ∧
    ∃ s, s ≠ [] ∧ flag command "--cache" = some s ∧ readFloat s = some x

/-- What is known of the two caches stays in the range of a double, and not both are nothing. -/
def CachesFit (crdb pg : Manifest) (command : List Char) : Prop :=
  ∀ x mem, Shares crdb command x mem → (mem : ℚ) < Number.overflowBound ∧
    ∀ n, sharedBuffers pg = some n → (n : ℚ) < Number.overflowBound ∧ ¬ (n = 0 ∧ AtMostZero x)

/-- The share is not known, or the product is computed. -/
lemma shareOf_cases (fraction : Option (List Char)) (mem : Option ℕ) :
    (shareOf fraction mem = .ok none ∧
      ∀ s n, fraction = some s → mem = some n → s = [] ∨ n = 0 ∨ readFloat s = none) ∨
    ∃ s n x, fraction = some s ∧ mem = some n ∧ s ≠ [] ∧ n ≠ 0 ∧ readFloat s = some x ∧
      shareOf fraction mem = (toDouble n).map fun _ => some (scaled x n) := by
  cases fraction with
  | none => exact Or.inl ⟨rfl, by simp⟩
  | some s =>
    cases mem with
    | none => exact Or.inl ⟨rfl, by simp⟩
    | some n =>
      by_cases hnone : s = [] ∨ n = 0
      · refine Or.inl ⟨by rw [shareOf, if_pos hnone], ?_⟩
        rintro s' n' ⟨⟩ ⟨⟩
        exact hnone.imp_right Or.inl
      · obtain ⟨hs, hn⟩ := not_or.mp hnone
        cases hx : readFloat s with
        | none => exact Or.inl ⟨by rw [shareOf, if_neg hnone, hx], by simp [hx]⟩
        | some x =>
          exact Or.inr ⟨s, n, x, rfl, rfl, hs, hn, hx, by rw [shareOf, if_neg hnone, hx]⟩

lemma impliedCacheKb_eq {m : Manifest} {command : List Char} {hw : Option Hardware}
    (h : hostHardware m = .ok hw) :
    impliedCacheKb m command = shareOf (flag command "--cache") (hostMemory m) := by
  rw [impliedCacheKb, hostMemory, h]
  rfl

lemma completes_compareCaches {crdbCacheKb : Option Number} {pgCacheKb : Option ℕ} :
    Completes (compareCaches crdbCacheKb pgCacheKb) ↔
      ∀ x n, crdbCacheKb = some x → pgCacheKb = some n → Completes (relativeDifference x n) := by
  cases crdbCacheKb with
  | none => simp [compareCaches]
  | some x => cases pgCacheKb <;> simp [compareCaches]

/-- The arithmetic on the two caches, once the notes are read. -/
lemma completes_arithmetic {crdb pg : Manifest} {command : List Char} :
    Completes (do
      let c ← shareOf (flag command "--cache") (hostMemory crdb)
      compareCaches c (sharedBuffers pg)) ↔ CachesFit crdb pg command := by
  rcases shareOf_cases (flag command "--cache") (hostMemory crdb) with ⟨hshare, hunknown⟩ |
    ⟨s, mem, x, hflag, hmem, hs, hn, hx, hshare⟩
  · refine iff_of_true ?_ ?_
    · rw [hshare, completes_bind]
      exact ⟨none, rfl, completes_compareCaches.mpr (by simp)⟩
    · rintro x mem ⟨hmem0, hmem, s, hs, hflag, hx⟩
      rcases hunknown s mem hflag hmem with h | h | h
      · exact absurd h hs
      · exact absurd h hmem0
      · simp [h] at hx
  · have hshares : ∀ x' mem', Shares crdb command x' mem' → x' = x ∧ mem' = mem := by
      rintro x' mem' ⟨-, hmem', s', -, hflag', hx'⟩
      cases hflag.symm.trans hflag'
      exact ⟨Option.some.inj (hx'.symm.trans hx), Option.some.inj (hmem'.symm.trans hmem)⟩
    rw [hshare, completes_bind]
    constructor
    · rintro ⟨c, hc, hcompletes⟩ x' mem' hx'
      obtain ⟨rfl, rfl⟩ := hshares x' mem' hx'
      obtain ⟨q, hq, rfl⟩ := map_eq_ok_iff.mp hc
      refine ⟨(toDouble_eq_ok_iff.mp hq).1, fun n hn' => ?_⟩
      have hrel := completes_compareCaches.mp hcompletes _ n rfl hn'
      rwa [completes_relativeDifference, atMostZero_scaled hn] at hrel
    · intro hfit
      obtain ⟨hrange, hpg⟩ := hfit x mem ⟨hn, hmem, s, hs, hflag, hx⟩
      refine ⟨some (scaled x mem), map_eq_ok_iff.mpr ⟨mem, toDouble_eq_ok_iff.mpr ⟨hrange, rfl⟩,
        rfl⟩, completes_compareCaches.mpr ?_⟩
      rintro y n ⟨⟩ hn'
      rw [completes_relativeDifference, atMostZero_scaled hn]
      exact hpg n hn'

/-- **When the caches are compared**: where the notes are read and the caches fit. -/
lemma completes_cacheVerdict {crdb pg : Manifest} {command : List Char} :
    Completes (cacheVerdict crdb pg command) ↔
      HostReadable crdb ∧ PgReadable pg ∧ CachesFit crdb pg command := by
  rw [← completes_hostHardware, ← completes_pgCacheConfig, ← completes_arithmetic]
  cases hhw : hostHardware crdb with
  | error e => simp [cacheVerdict, impliedCacheKb, hhw, bind, Except.bind]
  | ok hw =>
    cases hmemory : pgCacheConfig pg with
    | error e => simp [cacheVerdict, completes_bind, hmemory]
    | ok memory =>
      have hverdict : cacheVerdict crdb pg command = (do
          let c ← shareOf (flag command "--cache") (hostMemory crdb)
          compareCaches c (sharedBuffers pg)) := by
        rw [cacheVerdict, impliedCacheKb_eq hhw, sharedBuffers, hmemory]
        rfl
      simp [hverdict]

/-! ### The check -/

/-- The servers of the two runs are of the two engines and their commands are recorded: the
manifests in their roles, and the command of CockroachDB. -/
inductive Paired (a b : Manifest) : Manifest → Manifest → List Char → Prop
  | inOrder {cmdA cmdB : List Char} (ha : engine a = "cockroachdb") (hb : engine b = "postgresql")
      (hcmdA : serverCommand a = some cmdA) (hcmdB : serverCommand b = some cmdB) :
      Paired a b a b cmdA
  | swapped {cmdA cmdB : List Char} (ha : engine a = "postgresql") (hb : engine b = "cockroachdb")
      (hcmdA : serverCommand a = some cmdA) (hcmdB : serverCommand b = some cmdB) :
      Paired a b b a cmdB

variable {a b : Manifest} {labelA labelB : String}

lemma completes_cacheFindings {cmdA cmdB : List Char} (hcmdA : serverCommand a = some cmdA)
    (hcmdB : serverCommand b = some cmdB) :
    Completes (cacheFindings a b labelA labelB cmdA cmdB) ↔
      ∀ crdb pg command, Paired a b crdb pg command → Completes (cacheVerdict crdb pg command) := by
  unfold cacheFindings
  split_ifs with hab hba
  · rw [completes_map]
    refine ⟨fun h crdb pg command hpaired => ?_,
      fun h => h _ _ _ (.inOrder hab.1 hab.2 hcmdA hcmdB)⟩
    cases hpaired with
    | inOrder ha hb hcmdA' _ =>
      cases hcmdA.symm.trans hcmdA'
      exact h
    | swapped ha hb _ _ => exact absurd (hab.1.symm.trans ha) (by decide)
  · rw [completes_map]
    refine ⟨fun h crdb pg command hpaired => ?_,
      fun h => h _ _ _ (.swapped hba.1 hba.2 hcmdA hcmdB)⟩
    cases hpaired with
    | inOrder ha hb _ _ => exact absurd ⟨ha, hb⟩ hab
    | swapped ha hb _ hcmdB' =>
      cases hcmdB.symm.trans hcmdB'
      exact h
  · refine iff_of_true (completes_ok _) fun crdb pg command hpaired => ?_
    cases hpaired with
    | inOrder ha hb _ _ => exact absurd ⟨ha, hb⟩ hab
    | swapped ha hb _ _ => exact absurd ⟨ha, hb⟩ hba

lemma completes_serverFindings : Completes (serverFindings a b labelA labelB) ↔
    ∀ crdb pg command, Paired a b crdb pg command → Completes (cacheVerdict crdb pg command) := by
  have hunpaired (h : ∀ crdb pg command, ¬ Paired a b crdb pg command) (findings) :
      Completes (.ok findings : Except PyError (List (Validation.Finding Detail))) ↔
        ∀ crdb pg command, Paired a b crdb pg command → Completes (cacheVerdict crdb pg command) :=
    iff_of_true (completes_ok _) fun crdb pg command hp => absurd hp (h crdb pg command)
  unfold serverFindings
  cases hcmdA : serverCommand a with
  | none =>
    refine hunpaired (fun crdb pg command hp => ?_) _
    cases hp <;> simp_all
  | some cmdA =>
    cases hcmdB : serverCommand b with
    | none =>
      refine hunpaired (fun crdb pg command hp => ?_) _
      cases hp <;> simp_all
    | some cmdB =>
      by_cases hsame : engine a = engine b
      · simp only [if_pos hsame]
        refine hunpaired (fun crdb pg command hp => ?_) _
        cases hp with
        | inOrder ha hb _ _ => exact absurd (ha.symm.trans (hsame.trans hb)) (by decide)
        | swapped ha hb _ _ => exact absurd (ha.symm.trans (hsame.trans hb)) (by decide)
      · simp only [if_neg hsame]
        exact completes_cacheFindings hcmdA hcmdB

lemma completes_hardwareFindings {accept : Bool} :
    Completes (hardwareFindings a b labelA labelB accept) ↔ HostReadable a ∧ HostReadable b := by
  rw [← completes_hostHardware, ← completes_hostHardware]
  constructor
  · rintro ⟨findings, h⟩
    obtain ⟨x, y, hx, hy, -⟩ := hardwareFindings_eq_ok_iff.mp h
    exact ⟨⟨x, hx⟩, ⟨y, hy⟩⟩
  · rintro ⟨⟨x, hx⟩, ⟨y, hy⟩⟩
    exact ⟨_, hardwareFindings_eq_ok_iff.mpr ⟨x, y, hx, hy, rfl⟩⟩

/-- **When the check completes**: where no count of a host that is recorded is refused, and, for
CockroachDB against PostgreSQL with both commands recorded, none of PostgreSQL's memory is and
the two caches fit. -/
theorem check_completes_iff (a b : Manifest) (labelA labelB : String) (accept : Bool) :
    (∃ findings, checkRunComparability a b labelA labelB accept = .ok findings) ↔
      HostReadable a ∧ HostReadable b ∧ ∀ crdb pg command, Paired a b crdb pg command →
        PgReadable pg ∧ CachesFit crdb pg command := by
  have hparts : (∃ findings, checkRunComparability a b labelA labelB accept = .ok findings) ↔
      Completes (serverFindings a b labelA labelB) ∧
        Completes (hardwareFindings a b labelA labelB accept) := by
    constructor
    · rintro ⟨findings, h⟩
      obtain ⟨server, hardware, hserver, hhardware, -⟩ := check_eq_ok_iff.mp h
      exact ⟨⟨server, hserver⟩, ⟨hardware, hhardware⟩⟩
    · rintro ⟨⟨server, hserver⟩, ⟨hardware, hhardware⟩⟩
      exact ⟨_, check_eq_ok_iff.mpr ⟨server, hardware, hserver, hhardware, rfl⟩⟩
  rw [hparts, completes_serverFindings, completes_hardwareFindings]
  simp only [completes_cacheVerdict]
  constructor
  · rintro ⟨hverdict, ha, hb⟩
    exact ⟨ha, hb, fun crdb pg command hp => (hverdict crdb pg command hp).2⟩
  · rintro ⟨ha, hb, hfit⟩
    refine ⟨fun crdb pg command hp => ⟨?_, hfit crdb pg command hp⟩, ha, hb⟩
    cases hp with
    | inOrder => exact ha
    | swapped => exact hb

/-- CockroachDB given nothing of its memory, and PostgreSQL that shares none: both caches are
nothing, and the difference of the two is divided by zero. -/
theorem empty_caches_raise :
    checkRunComparability
      { engine := some "cockroachdb"
        serverVersion := some "v24.1.0"
        notes := some
          ["2026-09-03T00:00:00Z server: cockroach start --cache=0 --max-sql-memory=.25",
           "2026-09-03T00:00:00Z host: cpus=2 mem_total_kb=4007012 cpu_model=Intel(R) Xeon(R)"] }
      { engine := some "postgresql"
        serverVersion := some "16.3"
        notes := some
          ["2026-09-03T00:00:00Z server: postgres -D /var/lib/postgresql/16/main",
           "2026-09-03T00:00:00Z host: cpus=2 mem_total_kb=4007012 cpu_model=Intel(R) Xeon(R)",
           "2026-09-03T00:00:00Z pg memory: shared_buffers_kb=0 effective_cache_size_kb=0"] }
      "A" "B" false = .error .zeroDivisionError := by
  decide +kernel

end CrdbLab.ComparabilityArithmetic
