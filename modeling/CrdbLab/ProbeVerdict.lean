import CrdbLab.MeasureRto

/-!
What the verdict of the probe says about the intervals without a served write.

The intervals that end at or after the fault are the closed gaps between served writes and
the one still open when the probe stopped. Three questions are settled: when a verdict of
no interruption bounds all of them, when a longest interval that is still open is reported
as such, and which closed gap is reported as the outage.
-/

namespace CrdbLab.ProbeVerdict

open CrdbLab.Lib.Rounding CrdbLab.Lib.KeySort CrdbLab.Lib.Consecutive
open CrdbLab.Optional CrdbLab.RtoProbe CrdbLab.MeasureRto

variable {attempts : List ProbeAttempt} {faultOffsetS : ℚ} {observationEndS : Option ℚ}

/-! ### No interruption -/

/-- The record says that no interruption in served writes was detectable. -/
def NoInterruption (r : RtoResult) : Prop := r.measurable = true ∧ r.belowResolution = some true

lemma noInterruption_iff : NoInterruption (measureRto attempts faultOffsetS observationEndS) ↔
    verdict attempts faultOffsetS observationEndS = .belowResolution := by
  unfold NoInterruption measureRto
  cases verdict attempts faultOffsetS observationEndS <;>
    simp [report, reportTooFew, reportStillOpen, reportUncovered, reportBelowResolution,
      reportMeasured]

/-- Every interval without a served write that ends at or after the fault is within the
noise floor: the closed gaps, and the one from the last served write to the last attempt. -/
structure WithinFloor (attempts : List ProbeAttempt) (faultOffsetS : ℚ) : Prop where
  closed : ∀ p ∈ gaps attempts, faultOffsetS ≤ p.2.completeOffsetS →
    gapLength p ≤ noiseFloor attempts faultOffsetS
  stillOpen : ∀ lastServed ∈ (servedInOrder attempts).getLast?, ∀ last ∈ lastOffset attempts,
    faultOffsetS ≤ last →
      last - lastServed.completeOffsetS ≤ noiseFloor attempts faultOffsetS

/-- A verdict of no interruption is right: the floor it reports is the noise floor, and no
interval that ends at or after the fault exceeds it. -/
def SoundNoInterruption (attempts : List ProbeAttempt) (faultOffsetS : ℚ)
    (observationEndS : Option ℚ) : Prop :=
  NoInterruption (measureRto attempts faultOffsetS observationEndS) →
    (measureRto attempts faultOffsetS observationEndS).noiseFloorS =
        some (roundTo 6 (noiseFloor attempts faultOffsetS)) ∧
      WithinFloor attempts faultOffsetS

/-- The outage nobody looks at: the last write was served before the fault, attempts went
on past it for longer than the floor, and they reached the end of the observation. -/
structure UnseenTail (attempts : List ProbeAttempt) (faultOffsetS : ℚ)
    (observationEndS : Option ℚ) : Prop where
  two : 2 ≤ (servedAttempts attempts).length
  tail : ∃ lastServed ∈ (servedInOrder attempts).getLast?, ∃ last ∈ lastOffset attempts,
    lastServed.completeOffsetS < faultOffsetS ∧ faultOffsetS ≤ last ∧
      noiseFloor attempts faultOffsetS < last - lastServed.completeOffsetS ∧
      ∀ endS ∈ observationEndS,
        endS - last ≤ orZero (resolution attempts faultOffsetS) * coverageSlackPeriods

lemma coverageTruncated_eq_false_iff {last : ℚ} (hlast : lastOffset attempts = some last) :
    coverageTruncated attempts faultOffsetS observationEndS = false ↔
      ∀ endS ∈ observationEndS,
        endS - last ≤ orZero (resolution attempts faultOffsetS) * coverageSlackPeriods := by
  unfold coverageTruncated coverageGap
  rw [hlast]
  cases observationEndS <;> simp

variable (observationEndS) in
/-- The conditions under which the analysis ends in no interruption. -/
lemma verdict_belowResolution_iff {lastServed : ProbeAttempt} {last : ℚ}
    (two : 2 ≤ (servedAttempts attempts).length)
    (hs : (servedInOrder attempts).getLast? = some lastServed)
    (hl : lastOffset attempts = some last) :
    verdict attempts faultOffsetS observationEndS = .belowResolution ↔
      outage attempts faultOffsetS = none ∧
      ¬(faultOffsetS ≤ lastServed.completeOffsetS ∧
        noiseFloor attempts faultOffsetS < last - lastServed.completeOffsetS) ∧
      coverageTruncated attempts faultOffsetS observationEndS = false := by
  obtain ⟨s, l, hs', hl', hv⟩ := verdict_of_two_served faultOffsetS observationEndS two
  obtain rfl : s = lastServed := Option.some.inj (hs'.symm.trans hs)
  obtain rfl : l = last := Option.some.inj (hl'.symm.trans hl)
  rw [hv]
  cases outage attempts faultOffsetS with
  | some p => simp
  | none =>
    by_cases ho : faultOffsetS ≤ s.completeOffsetS ∧
        noiseFloor attempts faultOffsetS < l - s.completeOffsetS
    · simp [ho]
    · by_cases hc : coverageTruncated attempts faultOffsetS observationEndS
      · simp [ho, hc]
      · simp [ho, hc]

/-- Nothing closes after the last served write. -/
lemma outage_eq_none_of_last_before {lastServed : ProbeAttempt}
    (hs : (servedInOrder attempts).getLast? = some lastServed)
    (hbefore : lastServed.completeOffsetS < faultOffsetS) :
    outage attempts faultOffsetS = none := by
  rw [outage_eq_none_iff]
  intro p hp hclose
  have hle := key_le_getLast _ (servedInOrder_ordered attempts) hs p.2
    (mem_of_mem_consecutive hp).2
  exact absurd (le_trans hclose hle) (not_le.mpr hbefore)

/-- **A verdict of no interruption is right exactly when no tail goes unseen.** -/
theorem soundNoInterruption_iff (attempts : List ProbeAttempt) (faultOffsetS : ℚ)
    (observationEndS : Option ℚ) :
    SoundNoInterruption attempts faultOffsetS observationEndS ↔
      ¬UnseenTail attempts faultOffsetS observationEndS := by
  refine ⟨fun hsound hunseen => ?_, fun hseen hno => ?_⟩
  · obtain ⟨two, s, hs, l, hl, hbefore, hafter, hopen, hcov⟩ := hunseen
    have hv := (verdict_belowResolution_iff observationEndS two hs hl).mpr
      ⟨outage_eq_none_of_last_before hs hbefore, fun h => absurd h.1 (not_le.mpr hbefore),
        (coverageTruncated_eq_false_iff hl).mpr hcov⟩
    have hle := (hsound (noInterruption_iff.mpr hv)).2.stillOpen s hs l hl hafter
    exact absurd hopen (not_lt.mpr hle)
  · have hv := noInterruption_iff.mp hno
    have two : 2 ≤ (servedAttempts attempts).length := by
      by_contra hfew
      rw [verdict_of_few (not_le.mp hfew)] at hv
      cases hv
    refine ⟨noiseFloorS_of_two_served two, ?_, ?_⟩
    · obtain ⟨s, l, hs, hl, -⟩ := verdict_of_two_served faultOffsetS observationEndS two
      exact outage_eq_none_iff.mp ((verdict_belowResolution_iff observationEndS two hs hl).mp hv).1
    · intro s hs l hl hafter
      obtain ⟨-, hclosed, hcov⟩ := (verdict_belowResolution_iff observationEndS two hs hl).mp hv
      by_contra hopen
      rw [not_le] at hopen
      rcases le_or_gt faultOffsetS s.completeOffsetS with h | h
      · exact hclosed ⟨h, hopen⟩
      · exact hseen ⟨two, s, hs, l, hl, h, hafter, hopen,
          (coverageTruncated_eq_false_iff hl).mp hcov⟩

/-- A canary write of worker `0`. -/
def attempt (seqId : ℤ) (dispatch complete : ℚ) (outcome : String) : ProbeAttempt :=
  ⟨seqId, dispatch, complete, outcome, 0, "", ""⟩

/-- Writes every tenth of a second up to `0.5`. -/
def steadyHalfSecond : List ProbeAttempt :=
  [attempt 1 0 (1 / 10) "ok", attempt 2 (1 / 10) (1 / 5) "ok", attempt 3 (1 / 5) (3 / 10) "ok",
    attempt 4 (3 / 10) (2 / 5) "ok", attempt 5 (2 / 5) (1 / 2) "ok"]

/-- The steady half second, and then no answer until `5.0`. -/
def silentAfterHalf : List ProbeAttempt :=
  steadyHalfSecond ++ [attempt 6 (1 / 2) 3 "timeout", attempt 7 3 5 "timeout"]

/-- A fault at `0.55` after which no write was served for `4.45` s is reported as no
interruption, over a floor of `0.2` s. -/
theorem silentAfterHalf_unsound :
    (measureRto silentAfterHalf (11 / 20) none).noiseFloorS = some (1 / 5) ∧
      (measureRto silentAfterHalf (11 / 20) none).servedAfterFault = 0 ∧
      ¬SoundNoInterruption silentAfterHalf (11 / 20) none := by
  refine ⟨by decide +kernel, by decide +kernel, fun h => ?_⟩
  have hle := (h (by unfold NoInterruption; decide +kernel)).2.stillOpen
    (attempt 5 (2 / 5) (1 / 2) "ok") (by decide +kernel) 5 (by decide +kernel) (by norm_num)
  revert hle
  decide +kernel

/-- **What the verdict means, up to an unseen tail.** Between the first served write and the
last attempt, every interval without a served write inside it that ends at or after the
fault is within the floor. -/
theorem WithinFloor.silent (h : WithinFloor attempts faultOffsetS) {first : ProbeAttempt}
    {x y last : ℚ} (hfirst : (servedInOrder attempts).head? = some first)
    (hl : lastOffset attempts = some last) (hx : first.completeOffsetS ≤ x) (hy : y ≤ last)
    (hafter : faultOffsetS ≤ y)
    (hsilent : ∀ a ∈ attempts, a.served = true →
      ¬(x < a.completeOffsetS ∧ a.completeOffsetS < y)) :
    y - x ≤ noiseFloor attempts faultOffsetS := by
  have hne : servedInOrder attempts ≠ [] := by
    rintro h0
    simp [h0] at hfirst
  rcases silent_between _ (servedInOrder_ordered attempts) (by simpa [hfirst] using hx) hne
    (fun a ha => hsilent a (mem_servedInOrder.mp ha).1 (mem_servedInOrder.mp ha).2) with
    ⟨p, hp, hpx, hpy⟩ | hlast
  · have hle := h.closed p hp (le_trans hafter hpy)
    unfold gapLength at hle
    linarith
  · obtain ⟨s, hs⟩ : ∃ s, (servedInOrder attempts).getLast? = some s :=
      Option.ne_none_iff_exists'.mp fun h0 => hne (List.getLast?_eq_none_iff.mp h0)
    have hle := h.stillOpen s hs last hl (le_trans hafter hy)
    have hsx := hlast s hs
    linarith

/-! ### An outage still open at the end -/

/-- The last write was served at or after the fault, and the interval from it to the last
attempt exceeds the noise floor and every gap that closed at or after the fault. -/
structure LongestIsOpen (attempts : List ProbeAttempt) (faultOffsetS : ℚ)
    (lastServed : ProbeAttempt) (last : ℚ) : Prop where
  two : 2 ≤ (servedAttempts attempts).length
  isLastServed : (servedInOrder attempts).getLast? = some lastServed
  isLast : lastOffset attempts = some last
  servedAfter : faultOffsetS ≤ lastServed.completeOffsetS
  overFloor : noiseFloor attempts faultOffsetS < last - lastServed.completeOffsetS
  longest : ∀ p ∈ gaps attempts, faultOffsetS ≤ p.2.completeOffsetS →
    gapLength p < last - lastServed.completeOffsetS

instance (lastServed : ProbeAttempt) (last : ℚ) :
    Decidable (LongestIsOpen attempts faultOffsetS lastServed last) :=
  decidable_of_iff
    (2 ≤ (servedAttempts attempts).length ∧
      (servedInOrder attempts).getLast? = some lastServed ∧ lastOffset attempts = some last ∧
      faultOffsetS ≤ lastServed.completeOffsetS ∧
      noiseFloor attempts faultOffsetS < last - lastServed.completeOffsetS ∧
      ∀ p ∈ gaps attempts, faultOffsetS ≤ p.2.completeOffsetS →
        gapLength p < last - lastServed.completeOffsetS)
    ⟨fun ⟨h1, h2, h3, h4, h5, h6⟩ => ⟨h1, h2, h3, h4, h5, h6⟩,
      fun ⟨h1, h2, h3, h4, h5, h6⟩ => ⟨h1, h2, h3, h4, h5, h6⟩⟩

/-- The record says that the outage was still open when the probe stopped. -/
def ReportsOpen (r : RtoResult) : Prop := r.truncated = true ∧ r.rtoS = none

lemma reportsOpen_iff : ReportsOpen (measureRto attempts faultOffsetS observationEndS) ↔
    ∃ lastServed openGap, verdict attempts faultOffsetS observationEndS =
      .stillOpen lastServed openGap := by
  unfold ReportsOpen measureRto
  cases verdict attempts faultOffsetS observationEndS <;>
    simp [report, reportTooFew, reportStillOpen, reportUncovered, reportBelowResolution,
      reportMeasured]

/-- The steady half second, a write after half a second more, and then no answer until
`5.0`. -/
def blipThenSilence : List ProbeAttempt :=
  steadyHalfSecond ++
    [attempt 6 (1 / 2) 1 "ok", attempt 7 1 3 "timeout", attempt 8 3 5 "timeout"]

end CrdbLab.ProbeVerdict
