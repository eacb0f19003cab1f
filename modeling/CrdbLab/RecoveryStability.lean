import CrdbLab.FindRecovery

/-!
How the recovery found depends on the parameters and on the end of the series.

Lowering the threshold or the hold leaves every sustained start sustained, so the first one
can only come earlier. Ticks that are appended turn none of the starts passed over into a
recovery, and the start found stays unless one of them falls into its window and below the floor.
-/

namespace CrdbLab.RecoveryStability

open CrdbLab.Lib.Double CrdbLab.Lib.KeySort CrdbLab.FindRecovery

/-! ### The parameters -/

lemma sustained_mono {ticks : List Sample} {faultAtS floor floor' holdS holdS' startS : ℚ}
    (hord : Ordered Sample.offsetS ticks) (hfloor : floor' ≤ floor) (hhold : holdS' ≤ holdS)
    (hkept : ∀ s ∈ ticks, faultAtS ≤ s.offsetS → s.offsetS ≤ startS → Kept holdS' s)
    (h : Sustained ticks faultAtS floor holdS startS) :
    Sustained ticks faultAtS floor' holdS' startS := by
  obtain ⟨pre, start, rest, rfl, rfl, hfault, -, hlong, hall⟩ := h
  refine ⟨pre, start, rest, rfl, rfl, hfault, ?_, ?_, ?_⟩
  · intro s hs hle
    rcases List.mem_append.mp hs with hs | hs
    · have hbefore := (List.pairwise_append.mp hord).2.2 s hs start List.mem_cons_self
      exact hkept s (List.mem_append_left _ hs) hle hbefore
    · rw [List.mem_singleton.mp hs]
      exact hkept start (by simp) hfault le_rfl
  · intro last hlast hshort
    exact hlong last hlast (hshort.mono hhold le_rfl le_rfl)
  · intro s hs hle hlt
    have hin : s.offsetS < windowEnd holdS start.offsetS :=
      hlt.trans_le (windowEnd_mono hhold le_rfl)
    exact hfloor.trans (hall s hs hle hin)

/-- A recovery found is found again, no later, when the search asks for less. -/
lemma findRecovery_mono {ticks : List Sample}
    {faultAtS baselineTps threshold threshold' holdS holdS' startS : ℚ}
    (hord : Ordered Sample.offsetS ticks) (hbase : 0 ≤ baselineTps)
    (hthreshold : threshold' ≤ threshold) (hhold : holdS' ≤ holdS)
    (hkept : ∀ s ∈ ticks, faultAtS ≤ s.offsetS → s.offsetS ≤ startS → Kept holdS' s)
    (hfound : findRecovery ticks faultAtS baselineTps threshold holdS = some startS) :
    ∃ earlierS ≤ startS,
      findRecovery ticks faultAtS baselineTps threshold' holdS' = some earlierS := by
  have hfloor : double (baselineTps * threshold') ≤ double (baselineTps * threshold) :=
    double_mono (mul_le_mul_of_nonneg_left hthreshold hbase)
  have hstart : Sustained ticks faultAtS (double (baselineTps * threshold)) holdS startS :=
    ((findRecovery_eq_some_iff hord).mp hfound).1
  have hless : Sustained ticks faultAtS (double (baselineTps * threshold')) holdS' startS :=
    sustained_mono hord hfloor hhold hkept hstart
  cases hfound' : findRecovery ticks faultAtS baselineTps threshold' holdS' with
  | none => exact absurd hless ((findRecovery_eq_none_iff hord).mp hfound' startS)
  | some earlierS =>
    have hleast := ((findRecovery_eq_some_iff hord).mp hfound').2
    exact ⟨earlierS, hleast startS hless, rfl⟩

/-! ### The end of the series -/

/-- None of the samples falls into the window of the start and below the floor. -/
def Harmless (floor holdS startS : ℚ) (later : List Sample) : Prop :=
  ∀ s ∈ later, s.offsetS < windowEnd holdS startS → floor ≤ s.tps

lemma all_window_append {floor holdS startS : ℚ} {samples later : List Sample} :
    (window holdS startS (samples ++ later)).all (fun s => floor ≤ s.tps) = true ↔
      (window holdS startS samples).all (fun s => floor ≤ s.tps) = true ∧
        Harmless floor holdS startS later := by
  rw [window, List.filter_append, List.all_append, Bool.and_eq_true, Harmless]
  refine and_congr_right fun _ => ?_
  rw [List.all_filter, List.all_eq_true]
  refine forall₂_congr fun a _ => ?_
  simp [imp_iff_not_or]

/-- What follows a start that is skipped is searched alone. -/
lemma search_skip {floor holdS lastS : ℚ} {start : Sample} {rest : List Sample}
    (hne : window holdS start.offsetS (start :: rest) ≠ [])
    (hlong : ¬ Short holdS lastS start.offsetS)
    (hall : ¬ (window holdS start.offsetS (start :: rest)).all (fun s => floor ≤ s.tps) = true) :
    search floor holdS lastS (start :: rest) = search floor holdS lastS rest := by
  rw [search, if_neg (not_or.mpr ⟨hne, hlong⟩), if_neg hall]

/-- **The loop does not read past the window of the start it returns.** A start passed over stays
so, since its window keeps the sample below the floor. -/
lemma search_append_iff {floor holdS lastS lastS' startS : ℚ} {samples later : List Sample}
    (hord : Ordered Sample.offsetS (samples ++ later)) (hlast : lastS ≤ lastS')
    (hlate : ∀ s ∈ samples, ∀ t ∈ later, s.offsetS < t.offsetS)
    (hfound : search floor holdS lastS samples = some startS) :
    search floor holdS lastS' (samples ++ later) = some startS ↔
      Harmless floor holdS startS later := by
  induction samples with
  | nil => simp [search] at hfound
  | cons start rest ih =>
    have hgo : window holdS start.offsetS (start :: rest) ≠ [] ∧
        ¬ Short holdS lastS start.offsetS := by
      simp only [search] at hfound
      split at hfound
      · cases hfound
      · next h => exact not_or.mp h
    -- enough of the series remains after it too
    have hlong' : ¬ Short holdS lastS' start.offsetS := fun h =>
      hgo.2 (h.mono le_rfl hlast le_rfl)
    have hne' : window holdS start.offsetS (start :: (rest ++ later)) ≠ [] := by
      rw [← List.cons_append, window, List.filter_append]
      exact fun h => hgo.1 (List.append_eq_nil_iff.mp h).1
    have hall_iff := @all_window_append floor holdS start.offsetS (start :: rest) later
    by_cases hall : (window holdS start.offsetS (start :: rest)).all (fun s => floor ≤ s.tps) = true
    · have hstart : start.offsetS = startS := by
        simpa [search, hgo.1, hgo.2, hall] using hfound
      subst hstart
      rw [List.cons_append, search]
      simp only [hne', hlong', or_self, if_false]
      rw [← List.cons_append]
      by_cases hharmless : Harmless floor holdS start.offsetS later
      · rw [if_pos (hall_iff.mpr ⟨hall, hharmless⟩)]
        exact iff_of_true rfl hharmless
      · rw [if_neg fun h => hharmless (hall_iff.mp h).2]
        refine iff_of_false (fun hagain => hharmless fun s hs hin => ?_) hharmless
        -- a start found instead at the same offset would have the sample in its window too
        have hordered : Ordered Sample.offsetS (rest ++ later) := (List.pairwise_cons.mp hord).2
        have hspec := @search_spec floor holdS lastS' _ hordered
        obtain ⟨pre, start', rest', hsplit, hstart, -, -, hkeep⟩ := (hspec.1 _ hagain).1
        have hlt := hlate start List.mem_cons_self s hs
        have hmem : s ∈ pre ++ start' :: rest' := hsplit ▸ List.mem_append_right rest hs
        rcases List.mem_append.mp hmem with hpre | hrest
        · rw [hsplit] at hordered
          have hle := (List.pairwise_append.mp hordered).2.2 s hpre start' List.mem_cons_self
          rw [hstart] at hle
          exact absurd hle (not_le.mpr hlt)
        · exact hkeep s hrest (hstart.symm ▸ hin)
    · rw [search_skip hgo.1 hgo.2 hall] at hfound
      rw [List.cons_append, search_skip hne' hlong' fun h => hall (hall_iff.mp h).1]
      refine ih (List.pairwise_cons.mp hord).2 (fun s hs => ?_) hfound
      exact hlate s (List.mem_cons_of_mem start hs)

/-- The series after the fault ends where the whole series ends. -/
lemma findRecovery_append_iff {ticks later : List Sample}
    {faultAtS baselineTps threshold holdS startS : ℚ}
    (hord : Ordered Sample.offsetS (ticks ++ later))
    (hlate : ∀ last ∈ ticks.getLast?, ∀ s ∈ later, last.offsetS < s.offsetS)
    (hfound : findRecovery ticks faultAtS baselineTps threshold holdS = some startS) :
    findRecovery (ticks ++ later) faultAtS baselineTps threshold holdS = some startS ↔
      Harmless (double (baselineTps * threshold)) holdS startS later := by
  unfold findRecovery at hfound
  split at hfound
  · cases hfound
  · next last hlast =>
    have hticks : Ordered Sample.offsetS ticks := (List.pairwise_append.mp hord).1
    have hne : postFault ticks faultAtS ≠ [] := by
      intro h
      rw [h] at hlast
      cases hlast
    have hend : ticks.getLast? = some last := (getLast?_postFault hticks hne).symm.trans hlast
    have hpost : faultAtS ≤ last.offsetS := by
      have := List.mem_of_getLast? hlast
      simpa [postFault] using (List.mem_filter.mp this).2
    have hlate' : ∀ s ∈ later, last.offsetS < s.offsetS := hlate last (Option.mem_def.mpr hend)
    have hkeep : postFault later faultAtS = later :=
      List.filter_eq_self.mpr fun s hs => decide_eq_true (hpost.trans (hlate' s hs).le)
    have happend : postFault (ticks ++ later) faultAtS = postFault ticks faultAtS ++ later := by
      rw [postFault, List.filter_append]
      congr 1
    have hordPost : Ordered Sample.offsetS (postFault ticks faultAtS ++ later) :=
      happend ▸ List.Pairwise.sublist List.filter_sublist hord
    have hbefore : ∀ s ∈ postFault ticks faultAtS, ∀ t ∈ later, s.offsetS < t.offsetS := by
      intro s hs t ht
      have hle : s.offsetS ≤ last.offsetS :=
        key_le_getLast Sample.offsetS hticks hend s (List.mem_of_mem_filter hs)
      exact hle.trans_lt (hlate' t ht)
    rw [findRecovery, happend]
    cases hlast' : (postFault ticks faultAtS ++ later).getLast? with
    | none => simp [hne] at hlast'
    | some last' =>
      refine search_append_iff hordPost ?_ hbefore hfound
      by_cases hlater : later = []
      · rw [hlater, List.append_nil, hlast, Option.some.injEq] at hlast'
        rw [hlast']
      · rw [List.getLast?_append_of_ne_nil _ hlater] at hlast'
        exact (hlate' last' (List.mem_of_getLast? hlast')).le

/-- **The recovery found is monotone, and stable up to its window.** A lower threshold and a
shorter hold that is not lost find one too, no later. Ticks that come after the last one change
the recovery exactly when one of them is in the window found and below the floor. -/
theorem recovery_monotone_stable {ticks : List Sample}
    {faultAtS baselineTps threshold holdS startS : ℚ} (hord : Ordered Sample.offsetS ticks)
    (hbase : 0 ≤ baselineTps)
    (hfound : findRecovery ticks faultAtS baselineTps threshold holdS = some startS) :
    (∀ threshold' holdS', threshold' ≤ threshold → holdS' ≤ holdS →
        (∀ s ∈ ticks, faultAtS ≤ s.offsetS → s.offsetS ≤ startS → Kept holdS' s) →
          ∃ earlierS ≤ startS,
            findRecovery ticks faultAtS baselineTps threshold' holdS' = some earlierS) ∧
      ∀ later : List Sample, Ordered Sample.offsetS (ticks ++ later) →
        (∀ last ∈ ticks.getLast?, ∀ s ∈ later, last.offsetS < s.offsetS) →
          (findRecovery (ticks ++ later) faultAtS baselineTps threshold holdS = some startS ↔
            ∀ s ∈ later, s.offsetS < windowEnd holdS startS →
              double (baselineTps * threshold) ≤ s.tps) := by
  refine ⟨fun threshold' holdS' hthreshold hhold hkept => ?_, fun later hordered hlate => ?_⟩
  · exact findRecovery_mono hord hbase hthreshold hhold hkept hfound
  · exact findRecovery_append_iff hordered hlate hfound

/-- Asked for less, the search finds the tick before the dip; followed by another dip, it
finds what it found. -/
theorem dip_monotone_stable :
    (∃ earlierS ≤ 4, findRecovery dip (3 / 2) 100 (double (1 / 20)) 1 = some earlierS) ∧
      findRecovery (dip ++ [⟨7, 10⟩]) (3 / 2) 100 (double (4 / 5)) 2 = some 4 := by
  have hord : Ordered Sample.offsetS dip := List.pairwise_map.mp (by decide +kernel)
  have hfound : findRecovery dip (3 / 2) 100 (double (4 / 5)) 2 = some 4 := by decide +kernel
  obtain ⟨hless, hmore⟩ := recovery_monotone_stable hord (by norm_num) hfound
  refine ⟨hless (double (1 / 20)) 1 (by decide +kernel) (by norm_num) ?_,
    (hmore [⟨7, 10⟩] (List.pairwise_map.mp (by decide +kernel)) (by decide +kernel)).mpr ?_⟩
  · have hsmall : smallest ≤ 1 := by decide +kernel
    have hnear : ∀ s ∈ dip, |s.offsetS| ≤ 2 ^ 51 * 1 := by decide +kernel
    exact fun s hs _ _ => kept_of_le hsmall (hnear s hs)
  · decide +kernel

/-- A recovery at 3.841 s whose window ends, as the sum is rounded, after 13.841 s. -/
def edge : List Sample := [⟨double (3841 / 1000), 100⟩, ⟨double (13840999999 / 10 ^ 9), 100⟩]

/-- The tick that is appended is later than the last one by the slack and ends the recovery; a
hold that is lost in the sum finds none where a longer one did. -/
theorem edge_unstable :
    findRecovery edge 0 100 (double (4 / 5)) 10 = some (double (3841 / 1000)) ∧
      double (13840999999 / 10 ^ 9) + 1 / 10 ^ 9 ≤ double (13841 / 1000) ∧
      findRecovery (edge ++ [⟨double (13841 / 1000), 0⟩]) 0 100 (double (4 / 5)) 10 = none ∧
      0 < double (1 / 10 ^ 17) ∧ double (1 / 10 ^ 17) ≤ 10 ∧
      findRecovery edge 0 100 (double (4 / 5)) (double (1 / 10 ^ 17)) = none := by
  decide +kernel

end CrdbLab.RecoveryStability
