import CrdbLab.MeasureRto
import Mathlib.Data.Finset.Order
import Mathlib.Data.Finset.Dedup

/-!
What the noise floor of the probe depends on.

The floor is meant to be a property of the healthy period: whatever happens after the fault,
two runs that agree before it should be judged against one floor. They are, unless the
resolution of the healthy gaps is zero; then the resolution of the whole run is taken in its
place, and the gaps after the fault decide the floor.
-/

namespace CrdbLab.ProbeFloor

open CrdbLab.Lib.Rounding CrdbLab.Lib.KeySort CrdbLab.Lib.Consecutive CrdbLab.Lib.OrderStat
open CrdbLab.Optional CrdbLab.RtoProbe CrdbLab.MeasureRto

variable {attempts other : List ProbeAttempt} {faultOffsetS : ℚ}

/-- The served writes that completed before the fault. -/
def servedBefore (attempts : List ProbeAttempt) (faultOffsetS : ℚ) : List ProbeAttempt :=
  attempts.filter fun a => a.served && a.completeOffsetS < faultOffsetS

/-- The completion offsets of a list of writes, in order. -/
def completions (l : List ProbeAttempt) : List ℚ :=
  (sortOn ProbeAttempt.completeOffsetS l).map ProbeAttempt.completeOffsetS

lemma mem_servedBefore {a : ProbeAttempt} : a ∈ servedBefore attempts faultOffsetS ↔
    a ∈ attempts ∧ a.served = true ∧ a.completeOffsetS < faultOffsetS := by
  simp [servedBefore]

lemma servedInOrder_filter_lt :
    (servedInOrder attempts).filter (fun a => a.completeOffsetS < faultOffsetS) =
      sortOn ProbeAttempt.completeOffsetS (servedBefore attempts faultOffsetS) := by
  rw [servedInOrder, ← sortOn_filter, servedAttempts, List.filter_filter, servedBefore]
  simp only [Bool.and_comm]

/-- The healthy gaps are those of the writes served before the fault. -/
lemma healthyGaps_eq :
    healthyGaps attempts faultOffsetS =
      diffs (completions (servedBefore attempts faultOffsetS)) := by
  unfold healthyGaps gaps
  rw [consecutive_filter_lt _ (servedInOrder_ordered attempts), servedInOrder_filter_lt]
  exact map_consecutive_eq_diffs _ _

lemma healthyGaps_length : (healthyGaps attempts faultOffsetS).length =
    (servedBefore attempts faultOffsetS).length - 1 := by
  simp [healthyGaps_eq, length_diffs, completions]

lemma healthyGaps_congr
    (h : (servedBefore other faultOffsetS).Perm (servedBefore attempts faultOffsetS)) :
    healthyGaps other faultOffsetS = healthyGaps attempts faultOffsetS := by
  rw [healthyGaps_eq, healthyGaps_eq, completions, completions, map_sortOn_perm _ h]

/-- With a resolution of its own, the healthy period alone decides the floor. -/
lemma noiseFloor_congr
    (h : (servedBefore other faultOffsetS).Perm (servedBefore attempts faultOffsetS))
    (hres : truthy (resolutionOf (healthyGaps attempts faultOffsetS)) = true) :
    noiseFloor other faultOffsetS = noiseFloor attempts faultOffsetS := by
  have hgaps := healthyGaps_congr h
  have hresolution : resolution other faultOffsetS = resolution attempts faultOffsetS := by
    unfold resolution
    rw [hgaps, orElse_of_truthy hres, orElse_of_truthy hres]
  unfold noiseFloor
  rw [hgaps, hresolution]

/-! ### A continuation that moves the floor -/

/-- Served writes at the given offsets. -/
def servedAt (offsets : List ℚ) : List ProbeAttempt :=
  offsets.map fun t => ⟨0, t, t, "ok", 0, "", ""⟩

/-- The writes served before the fault, and then `k + 1` writes from the fault on, `d`
apart. -/
def continued (attempts : List ProbeAttempt) (faultOffsetS d : ℚ) (k : ℕ) : List ProbeAttempt :=
  servedBefore attempts faultOffsetS ++ servedAt (steps faultOffsetS d k)

@[simp] lemma map_servedAt (offsets : List ℚ) :
    (servedAt offsets).map ProbeAttempt.completeOffsetS = offsets := by
  simp [servedAt, Function.comp_def]

lemma servedAt_filter (p : ProbeAttempt → Bool) {offsets : List ℚ} (b : Bool)
    (h : ∀ t ∈ offsets, p ⟨0, t, t, "ok", 0, "", ""⟩ = b) :
    (servedAt offsets).filter p = if b then servedAt offsets else [] := by
  cases b
  · refine List.filter_eq_nil_iff.mpr fun a ha => ?_
    obtain ⟨t, ht, rfl⟩ := List.mem_map.mp ha
    simp [h t ht]
  · refine List.filter_eq_self.mpr fun a ha => ?_
    obtain ⟨t, ht, rfl⟩ := List.mem_map.mp ha
    exact h t ht

lemma servedBefore_continued {d : ℚ} (hd : 0 ≤ d) (k : ℕ) :
    servedBefore (continued attempts faultOffsetS d k) faultOffsetS =
      servedBefore attempts faultOffsetS := by
  have hnil : servedBefore (servedAt (steps faultOffsetS d k)) faultOffsetS = [] :=
    servedAt_filter _ false fun t ht => by simp [le_of_mem_steps hd ht]
  have hsame : servedBefore (servedBefore attempts faultOffsetS) faultOffsetS =
      servedBefore attempts faultOffsetS :=
    List.filter_eq_self.mpr fun a ha => by simpa using (mem_servedBefore.mp ha).2
  unfold continued
  rw [servedBefore, List.filter_append, ← servedBefore, ← servedBefore, hsame, hnil,
    List.append_nil]

lemma servedInOrder_continued {d : ℚ} (hd : 0 ≤ d) (k : ℕ) :
    (servedInOrder (continued attempts faultOffsetS d k)).map ProbeAttempt.completeOffsetS =
      completions (servedBefore attempts faultOffsetS) ++ steps faultOffsetS d k := by
  have hall : servedAttempts (continued attempts faultOffsetS d k) =
      continued attempts faultOffsetS d k := by
    refine List.filter_eq_self.mpr fun a ha => ?_
    rcases List.mem_append.mp ha with ha | ha
    · exact (mem_servedBefore.mp ha).2.1
    · obtain ⟨t, -, rfl⟩ := List.mem_map.mp ha
      rfl
  have hsorted : Ordered ProbeAttempt.completeOffsetS
      (sortOn ProbeAttempt.completeOffsetS (servedBefore attempts faultOffsetS) ++
        servedAt (steps faultOffsetS d k)) := by
    refine List.pairwise_append.mpr ⟨ordered_sortOn _ _, ?_, fun a ha b hb => ?_⟩
    · exact List.pairwise_map.mpr (steps_ordered hd k)
    · obtain ⟨t, ht, rfl⟩ := List.mem_map.mp hb
      have hlt := (mem_servedBefore.mp ((mem_sortOn _).mp ha)).2.2
      exact le_trans hlt.le (le_of_mem_steps hd ht)
  have hperm : (continued attempts faultOffsetS d k).Perm
      (sortOn ProbeAttempt.completeOffsetS (servedBefore attempts faultOffsetS) ++
        servedAt (steps faultOffsetS d k)) :=
    (sortOn_perm _ _).symm.append_right _
  rw [servedInOrder, hall, map_sortOn_perm _ hperm, sortOn_eq_self _ hsorted, List.map_append,
    map_servedAt, completions]

/-- The gaps of the continued run: the healthy ones, one across the fault, and `k` of `d`. -/
lemma gaps_continued (hne : servedBefore attempts faultOffsetS ≠ []) :
    ∃ bridge, ∀ d, 0 ≤ d → ∀ k, (gaps (continued attempts faultOffsetS d k)).map gapLength =
      healthyGaps attempts faultOffsetS ++ [bridge] ++ List.replicate k d := by
  have hne' : completions (servedBefore attempts faultOffsetS) ≠ [] := by
    simpa [completions, ← List.length_eq_zero_iff] using hne
  obtain ⟨bridge, h⟩ := diffs_append_steps hne' faultOffsetS
  refine ⟨bridge, fun d hd k => ?_⟩
  rw [map_gapLength, servedInOrder_continued hd, healthyGaps_eq, h]

/-- Where the healthy resolution is zero, gaps after the fault push the floor over any
bound. -/
lemma exists_continued_floor_gt (two : 2 ≤ (servedBefore attempts faultOffsetS).length)
    (hres : resolutionOf (healthyGaps attempts faultOffsetS) = some 0) (bound : ℚ) :
    ∃ other, servedBefore other faultOffsetS = servedBefore attempts faultOffsetS ∧
      bound < noiseFloor other faultOffsetS := by
  have hne : servedBefore attempts faultOffsetS ≠ [] := by
    intro h
    simp [h] at two
  obtain ⟨bridge, hgaps⟩ := gaps_continued hne
  set healthy := healthyGaps attempts faultOffsetS with hh
  -- `d` is over every gap there is and over the bound, and there are enough of it to make
  -- the 95th percentile of all gaps
  obtain ⟨d, hd⟩ := (healthy ++ [bridge, 0, bound + 1]).toFinset.exists_le
  have hle : ∀ x ∈ healthy ++ [bridge], x ≤ d := fun x hx => hd x (by
    simp only [List.mem_toFinset, List.mem_append, List.mem_cons, List.not_mem_nil,
      or_false] at hx ⊢
    tauto)
  have hd0 : 0 ≤ d := hd 0 (by simp)
  have hdb : bound + 1 ≤ d := hd (bound + 1) (by simp)
  set k := 20 * (healthy.length + 2) with hk
  set other := continued attempts faultOffsetS d k with ho
  have hsame : servedBefore other faultOffsetS = servedBefore attempts faultOffsetS :=
    servedBefore_continued hd0 k
  have hhealthy : healthyGaps other faultOffsetS = healthy :=
    healthyGaps_congr (List.Perm.of_eq hsame)
  have hall : resolutionOf ((gaps other).map gapLength) = some d := by
    rw [ho, hgaps d hd0 k]
    refine quantile_append_replicate hle (by omega) ?_
    simp only [List.length_append, List.length_singleton, hk]
    push_cast
    linarith
  refine ⟨other, hsame, ?_⟩
  have hresolution : resolution other faultOffsetS = some d := by
    rw [resolution, hhealthy, hall, orElse_of_falsy (by simp [hres])]
  have hfloor : d ≤ noiseFloor other faultOffsetS := by
    unfold noiseFloor
    rw [hhealthy, hresolution]
    split
    · next longest hl =>
      have := healthyGaps_nonneg longest (List.max?_mem hl)
      rw [orZero_some]
      linarith
    · rw [orZero_some]
      linarith
  linarith

lemma servedAttempts_length_of_before (two : 2 ≤ (servedBefore attempts faultOffsetS).length) :
    2 ≤ (servedAttempts attempts).length := by
  refine le_trans two (List.Sublist.length_le ?_)
  have h : servedBefore attempts faultOffsetS =
      (servedAttempts attempts).filter fun a => a.completeOffsetS < faultOffsetS := by
    rw [servedBefore, servedAttempts, List.filter_filter]
    simp only [Bool.and_comm]
  rw [h]
  exact List.filter_sublist

/-- **The floor is a property of the healthy period exactly when its resolution is not
zero.** Two runs with the same writes served before the fault report one floor, whatever
they saw after it, if and only if the 95th percentile of those writes' gaps is not zero. -/
theorem floor_fixed_iff {observationEndS : Option ℚ}
    (two : 2 ≤ (servedBefore attempts faultOffsetS).length) :
    (∀ other endS, (servedBefore other faultOffsetS).Perm (servedBefore attempts faultOffsetS) →
      (measureRto other faultOffsetS endS).noiseFloorS =
        (measureRto attempts faultOffsetS observationEndS).noiseFloorS) ↔
      resolutionOf (healthyGaps attempts faultOffsetS) ≠ some 0 := by
  have hfloor : ∀ l endS, 2 ≤ (servedBefore l faultOffsetS).length →
      (measureRto l faultOffsetS endS).noiseFloorS =
        some (roundTo 6 (noiseFloor l faultOffsetS)) :=
    fun l endS h => noiseFloorS_of_two_served (servedAttempts_length_of_before h)
  refine ⟨fun h hres => ?_, fun hres other endS hperm => ?_⟩
  · obtain ⟨other, hsame, hgt⟩ := exists_continued_floor_gt two hres
      (noiseFloor attempts faultOffsetS + 1)
    have heq := h other none (List.Perm.of_eq hsame)
    rw [hfloor other none (hsame ▸ two), hfloor attempts _ two, Option.some.injEq] at heq
    have hlt : roundTo 6 (noiseFloor attempts faultOffsetS) <
        roundTo 6 (noiseFloor other faultOffsetS) := by
      refine roundTo_lt_roundTo (lt_of_le_of_lt ?_ hgt)
      gcongr
      norm_num
    exact absurd heq hlt.ne'
  · have hsome : resolutionOf (healthyGaps attempts faultOffsetS) ≠ none := by
      have hne : healthyGaps attempts faultOffsetS ≠ [] := by
        intro h0
        have := @healthyGaps_length attempts faultOffsetS
        rw [h0, List.length_nil] at this
        omega
      obtain ⟨x, -, hx⟩ := quantile_mem hne (95 / 100 : ℚ)
      rw [resolutionOf, hx]
      simp
    rw [hfloor other endS (hperm.length_eq ▸ two), hfloor attempts _ two,
      noiseFloor_congr hperm (truthy_iff.mpr ⟨hsome, hres⟩)]

/-- With the steady cadence of a tenth of a second the floor is fixed. -/
theorem tenth_floor_fixed :
    resolutionOf (healthyGaps (servedAt [1 / 10, 1 / 5, 3 / 10]) 1) = some (1 / 10) ∧
      ∀ other endS, (servedBefore other 1).Perm (servedBefore (servedAt [1 / 10, 1 / 5, 3 / 10]) 1) →
        (measureRto other 1 endS).noiseFloorS =
          (measureRto (servedAt [1 / 10, 1 / 5, 3 / 10]) 1 none).noiseFloorS :=
  ⟨by decide +kernel, (floor_fixed_iff (by decide +kernel)).mpr (by decide +kernel)⟩

/-- Two workers complete at one instant before the fault; the write that follows after one
second or after five decides the floor. -/
theorem simultaneous_floor_moved :
    servedBefore (servedAt [1 / 10, 1 / 10, 1]) (1 / 2) =
        servedBefore (servedAt [1 / 10, 1 / 10, 5]) (1 / 2) ∧
      (servedBefore (servedAt [1 / 10, 1 / 10, 1]) (1 / 2)).length = 2 ∧
      (measureRto (servedAt [1 / 10, 1 / 10, 1]) (1 / 2) none).noiseFloorS = some (9 / 10) ∧
      (measureRto (servedAt [1 / 10, 1 / 10, 5]) (1 / 2) none).noiseFloorS = some (49 / 10) := by
  decide +kernel

end CrdbLab.ProbeFloor
