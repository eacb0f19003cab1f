import CrdbLab.MeasureRto

/-!
Which outage the analysis reports.

A recovery time is given exactly when some gap between served writes closes at or after the
fault and exceeds the noise floor, and the gap it is given for is a longest such gap.
-/

namespace CrdbLab.ReportedOutage

open CrdbLab.Lib.Rounding CrdbLab.Lib.KeySort CrdbLab.Lib.Consecutive
open CrdbLab.Optional CrdbLab.RtoProbe CrdbLab.MeasureRto

variable {attempts : List ProbeAttempt} {faultOffsetS : ℚ} {observationEndS : Option ℚ}

/-- The length of what the intervals `[a, b]` and `[c, d]` have in common. -/
def commonLength (a b c d : ℚ) : ℚ := max 0 (min b d - max a c)

lemma commonLength_nonneg (a b c d : ℚ) : 0 ≤ commonLength a b c d := le_max_left _ _

lemma commonLength_le {a b c d : ℚ} (h : c ≤ d) : commonLength a b c d ≤ d - c := by
  have h1 := min_le_right b d
  have h2 := le_max_right a c
  exact max_le (by linarith) (by linarith)

/-- The part of the gap during which the write that closed it was in flight. -/
def flightFraction (p : ProbeAttempt × ProbeAttempt) : ℚ :=
  commonLength p.2.dispatchOffsetS p.2.completeOffsetS p.1.completeOffsetS p.2.completeOffsetS /
    gapLength p

lemma flightFraction_mem {p : ProbeAttempt × ProbeAttempt} (h : 0 < gapLength p) :
    0 ≤ flightFraction p ∧ flightFraction p ≤ 1 := by
  have hle : p.1.completeOffsetS ≤ p.2.completeOffsetS := by
    unfold gapLength at h
    linarith
  refine ⟨div_nonneg (commonLength_nonneg _ _ _ _) h.le, ?_⟩
  exact (div_le_one h).mpr (commonLength_le hle)

/-- The fraction as the source computes it is the fraction in flight: the cut at one never
applies. -/
lemma inFlightFraction_eq {before after : ProbeAttempt} (h : 0 < gapLength (before, after)) :
    inFlightFraction before after = flightFraction (before, after) := by
  have hle := (flightFraction_mem h).2
  unfold flightFraction commonLength at hle ⊢
  unfold inFlightFraction
  simp only [h.ne', ne_eq, not_false_eq_true, if_true, min_self] at hle ⊢
  rw [min_eq_right hle]

lemma gapLength_pos {p : ProbeAttempt × ProbeAttempt}
    (h : Qualifies attempts faultOffsetS p) : 0 < gapLength p :=
  lt_of_le_of_lt noiseFloor_nonneg h.2

/-- The record is that of the gap `p`. -/
structure Reports (attempts : List ProbeAttempt) (faultOffsetS : ℚ) (r : RtoResult)
    (p : ProbeAttempt × ProbeAttempt) : Prop where
  started : r.outage.map Outage.startedS = some (roundTo 6 p.1.completeOffsetS)
  ended : r.outage.bind Outage.endedS = some (roundTo 6 p.2.completeOffsetS)
  duration : r.outage.bind Outage.durationS = some (roundTo 6 (gapLength p))
  rto : r.rtoS = some (roundTo 6 (p.2.completeOffsetS - faultOffsetS))
  observed : r.observedOutageS = some (roundTo 6 (gapLength p))
  count : r.qualifyingGapCount =
    some ((gaps attempts).filter fun q => Qualifies attempts faultOffsetS q).length
  inFlight : r.inFlightFraction = some (roundTo 4 (flightFraction p))

lemma outage_eq_none_of_few (few : (servedAttempts attempts).length < 2) :
    outage attempts faultOffsetS = none := by
  have hnil : gaps attempts = [] := by
    have hlen := gaps_length attempts
    exact List.length_eq_zero_iff.mp (by omega)
  rw [outage_eq_none_iff, hnil]
  simp

lemma rtoS_ne_none_iff :
    (measureRto attempts faultOffsetS observationEndS).rtoS ≠ none ↔
      outage attempts faultOffsetS ≠ none := by
  unfold measureRto
  rcases lt_or_ge (servedAttempts attempts).length 2 with few | two
  · simp [verdict_of_few few, outage_eq_none_of_few few, report, reportTooFew]
  · obtain ⟨lastServed, last, -, -, hv⟩ := verdict_of_two_served faultOffsetS observationEndS two
    rw [hv]
    cases outage attempts faultOffsetS with
    | some p => simp [report, reportMeasured]
    | none =>
      simp only [ne_eq, not_true_eq_false, iff_false, not_not]
      split_ifs <;> rfl

lemma measureRto_of_outage {p : ProbeAttempt × ProbeAttempt}
    (h : outage attempts faultOffsetS = some p) :
    measureRto attempts faultOffsetS observationEndS =
      reportMeasured attempts faultOffsetS observationEndS p.1 p.2 := by
  have two : 2 ≤ (servedAttempts attempts).length := by
    by_contra hfew
    rw [outage_eq_none_of_few (not_le.mp hfew)] at h
    cases h
  obtain ⟨lastServed, last, -, -, hv⟩ := verdict_of_two_served faultOffsetS observationEndS two
  unfold measureRto
  rw [hv, h]
  rfl

/-- Of the longest gaps over the floor the outage is the one that opens first. -/
lemma outage_first {p q : ProbeAttempt × ProbeAttempt} (h : outage attempts faultOffsetS = some p)
    (hq : q ∈ gaps attempts) (hQ : Qualifies attempts faultOffsetS q)
    (hle : gapLength p ≤ gapLength q) : p.1.completeOffsetS ≤ q.1.completeOffsetS := by
  have hordered : Ordered (fun p : ProbeAttempt × ProbeAttempt => p.1.completeOffsetS)
      (qualifying attempts faultOffsetS) :=
    (ordered_consecutive _ (servedInOrder_ordered attempts)).filter _
  exact key_argmax_le _ hordered h (mem_qualifying.mpr ⟨hq, hQ⟩) hle

lemma verdict_ne_measured (h : outage attempts faultOffsetS = none)
    (before after : ProbeAttempt) :
    verdict attempts faultOffsetS observationEndS ≠ .measured before after := by
  intro hv
  have hrto : (measureRto attempts faultOffsetS observationEndS).rtoS ≠ none := by
    unfold measureRto
    rw [hv]
    simp [report, reportMeasured]
  exact rtoS_ne_none_iff.mp hrto h

/-- A recovery time is offered for quoting exactly when an outage is reported that is
attributable to the fault. -/
lemma quotableValueS_ne_none_iff :
    (measureRto attempts faultOffsetS observationEndS).quotableValueS ≠ none ↔
      outage attempts faultOffsetS ≠ none ∧ attributable attempts faultOffsetS = true := by
  cases h : outage attempts faultOffsetS with
  | some p =>
    rw [measureRto_of_outage h]
    simp [reportMeasured]
  | none =>
    unfold measureRto
    cases hv : verdict attempts faultOffsetS observationEndS with
    | measured before after => exact absurd hv (verdict_ne_measured h before after)
    | tooFew => simp [report, reportTooFew]
    | stillOpen _ _ => simp [report, reportStillOpen]
    | uncovered => simp [report, reportUncovered]
    | belowResolution => simp [report, reportBelowResolution]

/-- **The outage reported is a longest gap over the floor.** A recovery time is given if and
only if some gap that closes at or after the fault exceeds the floor; it is then that of
such a gap of the greatest length, with the number of such gaps beside it. -/
theorem reported_outage (attempts : List ProbeAttempt) (faultOffsetS : ℚ)
    (observationEndS : Option ℚ) :
    ((measureRto attempts faultOffsetS observationEndS).rtoS ≠ none ↔
      ∃ p ∈ gaps attempts, Qualifies attempts faultOffsetS p) ∧
    ((measureRto attempts faultOffsetS observationEndS).rtoS ≠ none →
      ∃ p ∈ gaps attempts, Qualifies attempts faultOffsetS p ∧
        (∀ q ∈ gaps attempts, Qualifies attempts faultOffsetS q → gapLength q ≤ gapLength p) ∧
        Reports attempts faultOffsetS (measureRto attempts faultOffsetS observationEndS) p ∧
        0 ≤ p.2.completeOffsetS - faultOffsetS ∧ 0 < gapLength p ∧
        0 ≤ roundTo 4 (flightFraction p) ∧ roundTo 4 (flightFraction p) ≤ 1) := by
  rw [rtoS_ne_none_iff]
  refine ⟨⟨fun h => ?_, fun ⟨p, hp, hq⟩ => ?_⟩, fun h => ?_⟩
  · obtain ⟨p, hp⟩ := Option.ne_none_iff_exists'.mp h
    exact ⟨p, (outage_eq_some hp).1, (outage_eq_some hp).2.1⟩
  · exact fun h => absurd hq.2 (not_lt.mpr (outage_eq_none_iff.mp h p hp hq.1))
  · obtain ⟨p, hp⟩ := Option.ne_none_iff_exists'.mp h
    obtain ⟨hmem, hq, hmax⟩ := outage_eq_some hp
    have hpos := gapLength_pos hq
    have hfrac := flightFraction_mem hpos
    have hf : inFlightFraction p.1 p.2 = flightFraction p := inFlightFraction_eq hpos
    refine ⟨p, hmem, hq, hmax, ?_, sub_nonneg.mpr hq.1, hpos, roundTo_nonneg hfrac.1,
      roundTo_le_one hfrac.2⟩
    rw [measureRto_of_outage hp]
    exact ⟨rfl, rfl, rfl, rfl, rfl, rfl, by rw [← hf]; rfl⟩

end CrdbLab.ReportedOutage
