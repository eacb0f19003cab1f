import CrdbLab.ReportedOutage

/-!
When the outage that is quoted began.

A gap counts as after the fault by its closing edge alone. One that was open when the fault
landed may therefore be the longest, and it is then quoted however long it had been open.
-/

namespace CrdbLab.OutageStart

open CrdbLab.Lib.Rounding CrdbLab.RtoProbe CrdbLab.MeasureRto
open CrdbLab.ReportedOutage

/-- Where a recovery time is offered, the outage had not lasted longer than the noise floor
when the fault landed. -/
def NotUnderWay (attempts : List ProbeAttempt) (faultOffsetS : ℚ)
    (observationEndS : Option ℚ) : Prop :=
  (measureRto attempts faultOffsetS observationEndS).quotableValueS ≠ none →
    ∃ outage floor, (measureRto attempts faultOffsetS observationEndS).outage = some outage ∧
      (measureRto attempts faultOffsetS observationEndS).noiseFloorS = some floor ∧
      faultOffsetS - outage.startedS ≤ floor

section Gaps

variable (attempts : List ProbeAttempt) (faultOffsetS : ℚ)

/-- The gap had been open for longer than the floor when the fault landed, both as reported. -/
def UnderWay (p : ProbeAttempt × ProbeAttempt) : Prop :=
  roundTo 6 (noiseFloor attempts faultOffsetS) < faultOffsetS - roundTo 6 p.1.completeOffsetS

/-- The gaps are compared and those after the fault are not the heavier. -/
def Dismissed : Prop :=
  ∃ test, tailAttribution (healthyGaps attempts faultOffsetS) (postGaps attempts faultOffsetS) =
    .tested test ∧ test.heavierAfterFault = false

end Gaps

variable {attempts : List ProbeAttempt} {faultOffsetS : ℚ}

lemma attributable_eq_true_iff :
    attributable attempts faultOffsetS = true ↔ ¬ Dismissed attempts faultOffsetS := by
  unfold attributable attribution Dismissed
  cases tailAttribution (healthyGaps attempts faultOffsetS) (postGaps attempts faultOffsetS) with
  | untestable detail => simp [Attribution.heavierAfterFault]
  | tested test => simp [Attribution.heavierAfterFault]

/-- What is asked of the record, as a question about the gap it reports. -/
lemma notUnderWay_of_outage {p : ProbeAttempt × ProbeAttempt} (observationEndS : Option ℚ)
    (h : outage attempts faultOffsetS = some p) :
    NotUnderWay attempts faultOffsetS observationEndS ↔
      (¬ Dismissed attempts faultOffsetS → ¬ UnderWay attempts faultOffsetS p) := by
  have hquoted : (measureRto attempts faultOffsetS observationEndS).quotableValueS ≠ none ↔
      ¬ Dismissed attempts faultOffsetS := by
    rw [quotableValueS_ne_none_iff, h, attributable_eq_true_iff]
    simp
  have hstart : (∃ outage floor,
      (measureRto attempts faultOffsetS observationEndS).outage = some outage ∧
      (measureRto attempts faultOffsetS observationEndS).noiseFloorS = some floor ∧
      faultOffsetS - outage.startedS ≤ floor) ↔ ¬ UnderWay attempts faultOffsetS p := by
    rw [measureRto_of_outage h, UnderWay, not_lt]
    constructor
    · rintro ⟨_, _, ⟨⟩, ⟨⟩, hle⟩
      exact hle
    · exact fun hle => ⟨_, _, rfl, rfl, hle⟩
  unfold NotUnderWay
  rw [hquoted, hstart]

/-- Writes every tenth of a second for two seconds, one more after a fifth, and the next when
ten seconds have passed. -/
def stalled : List ProbeAttempt :=
  ((List.range 21).map fun n : ℕ => ⟨n, n / 10, n / 10, "ok", 0, "", ""⟩) ++
    [⟨21, 11 / 5, 11 / 5, "ok", 0, "", ""⟩, ⟨22, 12, 12, "ok", 0, "", ""⟩]

end CrdbLab.OutageStart
