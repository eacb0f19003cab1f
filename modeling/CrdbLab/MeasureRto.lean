import CrdbLab.RtoProbe

/-!
How long the database could not serve a write after the fault.

The outage is the longest gap between served writes that closes at or after the fault and
exceeds the noise floor. The analysis decides between five verdicts and then assembles the
record of the one it reached; the two steps are kept apart here, so that a fact about the
branches is a fact about the verdict alone.
-/

namespace CrdbLab.MeasureRto

open CrdbLab.Lib.Rounding CrdbLab.Lib.KeySort CrdbLab.Lib.Consecutive CrdbLab.Lib.OrderStat
open CrdbLab.Optional CrdbLab.RtoProbe

/-- How far, in sampling periods, the last observation may fall short of the end of the
run before the probe counts as having stopped observing. -/
def coverageSlackPeriods : ℚ := 20

section Quantities

variable (attempts : List ProbeAttempt) (faultOffsetS : ℚ) (observationEndS : Option ℚ)

/-- The gaps that closed before the fault. -/
def healthyGaps : List ℚ :=
  ((gaps attempts).filter fun p => p.2.completeOffsetS < faultOffsetS).map gapLength

/-- The gaps that closed at or after the fault. -/
def postGaps : List ℚ :=
  ((gaps attempts).filter fun p => faultOffsetS ≤ p.2.completeOffsetS).map gapLength

/-- The resolution of the healthy gaps, or where that is missing or zero, of all gaps. -/
def resolution : Option ℚ :=
  orElse (resolutionOf (healthyGaps attempts faultOffsetS))
    (resolutionOf ((gaps attempts).map gapLength))

def failuresAfter : List ProbeAttempt :=
  sortOn ProbeAttempt.completeOffsetS
    (attempts.filter fun a => !a.served && faultOffsetS ≤ a.completeOffsetS)

def detectionLag : Option ℚ :=
  (failuresAfter attempts faultOffsetS).head?.map fun a =>
    roundTo 6 (a.completeOffsetS - faultOffsetS)

def afterFault : List ProbeAttempt :=
  (servedInOrder attempts).filter fun a => faultOffsetS ≤ a.completeOffsetS

def nextAfter : Option ℚ :=
  (afterFault attempts faultOffsetS).head?.map fun a =>
    roundTo 6 (a.completeOffsetS - faultOffsetS)

/-- The completion of the last attempt of any outcome. -/
def lastOffset : Option ℚ := (attempts.map ProbeAttempt.completeOffsetS).max?

def coverageGap : Option ℚ :=
  match observationEndS, lastOffset attempts with
  | some endS, some last => some (endS - last)
  | _, _ => none

def coverageTruncated : Bool :=
  (coverageGap attempts observationEndS).any
    (orZero (resolution attempts faultOffsetS) * coverageSlackPeriods < ·)

/-- The longest gap that closed before the fault plus one sampling period, or two periods
where no gap closed before it. -/
def noiseFloor : ℚ :=
  match (healthyGaps attempts faultOffsetS).max? with
  | some longest => longest + orZero (resolution attempts faultOffsetS)
  | none => 2 * orZero (resolution attempts faultOffsetS)

def noiseFloorSource : String :=
  if healthyGaps attempts faultOffsetS = [] then
    "twice the median gap over the whole run; no gap between served writes closed before " ++
      "the fault, so there is nothing to characterise the healthy cadence with"
  else
    "longest gap between served writes that closed before the fault, plus one median " ++
      "sampling period"

/-- A gap that closes at or after the fault and exceeds the floor. -/
def Qualifies (p : ProbeAttempt × ProbeAttempt) : Prop :=
  faultOffsetS ≤ p.2.completeOffsetS ∧ noiseFloor attempts faultOffsetS < gapLength p

instance (p : ProbeAttempt × ProbeAttempt) : Decidable (Qualifies attempts faultOffsetS p) :=
  inferInstanceAs (Decidable (_ ∧ _))

def qualifying : List (ProbeAttempt × ProbeAttempt) :=
  (gaps attempts).filter fun p => Qualifies attempts faultOffsetS p

/-- The longest qualifying gap, and not the first: jitter after the fault often clears the
floor before the real outage begins. -/
def outage : Option (ProbeAttempt × ProbeAttempt) :=
  (qualifying attempts faultOffsetS).argmax gapLength

end Quantities

/-! ### The verdict -/

/-- The five ways in which the analysis ends. -/
inductive Verdict
  | tooFew
  | stillOpen (lastServed : ProbeAttempt) (openGap : ℚ)
  | uncovered
  | belowResolution
  | measured (before after : ProbeAttempt)
  deriving DecidableEq, Repr

section Verdict

variable (attempts : List ProbeAttempt) (faultOffsetS : ℚ) (observationEndS : Option ℚ)

/-- The branches, in the order in which they are tested. Without a served write there is no
last one, which the first branch covers. -/
def verdict : Verdict :=
  match (servedInOrder attempts).getLast?, attempts.argmax ProbeAttempt.completeOffsetS with
  | some lastServed, some lastAttempt =>
    if (servedInOrder attempts).length < 2 then .tooFew
    else
      let openGap := lastAttempt.completeOffsetS - lastServed.completeOffsetS
      match outage attempts faultOffsetS with
      | some (before, after) => .measured before after
      | none =>
        if faultOffsetS ≤ lastServed.completeOffsetS ∧
            noiseFloor attempts faultOffsetS < openGap then
          .stillOpen lastServed openGap
        else if coverageTruncated attempts faultOffsetS observationEndS then .uncovered
        else .belowResolution
  | _, _ => .tooFew

end Verdict

/-! ### The record -/

/-- The interval reported as the outage. While it is still open it has no end, only a
length it has at least. -/
structure Outage where
  startedS : ℚ
  endedS : Option ℚ
  durationS : Option ℚ
  atLeastS : Option ℚ := none
  startedAfterFaultS : Option ℚ := none
  deriving DecidableEq, Repr

/-- The entries every verdict reports. -/
structure Base where
  resolutionS : Option ℚ
  detectionLagS : Option ℚ
  nextWriteAfterFaultS : Option ℚ
  servedAfterFault : ℕ
  servedBeforeFault : ℕ
  lastObservationOffsetS : Option ℚ
  observationEndOffsetS : Option ℚ
  coverageGapS : Option ℚ
  coverageTruncated : Option Bool
  noiseFloorS : Option ℚ := none
  noiseFloorSource : Option String := none
  qualifyingGapsS : Option (List ℚ) := none
  qualifyingGapCount : Option ℕ := none
  deriving DecidableEq, Repr

/-- The record; an entry a verdict does not set reads as missing. -/
structure RtoResult extends Base where
  rtoS : Option ℚ := none
  rtoMs : Option ℚ := none
  measurable : Bool
  truncated : Bool := false
  belowResolution : Option Bool := none
  outage : Option Outage := none
  observedOutageS : Option ℚ := none
  closedByInFlightWrite : Option Bool := none
  inFlightFraction : Option ℚ := none
  attribution : Option Attribution := none
  faultAttributable : Option Bool := none
  quotableValueS : Option ℚ := none
  claim : Option String := none
  detail : Option String := none
  deriving DecidableEq, Repr

section Record

variable (attempts : List ProbeAttempt) (faultOffsetS : ℚ) (observationEndS : Option ℚ)

def base : Base where
  resolutionS := roundedIf 6 (resolution attempts faultOffsetS)
  detectionLagS := detectionLag attempts faultOffsetS
  nextWriteAfterFaultS := nextAfter attempts faultOffsetS
  servedAfterFault := (afterFault attempts faultOffsetS).length
  servedBeforeFault := (servedInOrder attempts).length - (afterFault attempts faultOffsetS).length
  lastObservationOffsetS := rounded 6 (lastOffset attempts)
  observationEndOffsetS := observationEndS
  coverageGapS := rounded 3 (coverageGap attempts observationEndS)
  coverageTruncated := (coverageGap attempts observationEndS).map fun _ =>
    coverageTruncated attempts faultOffsetS observationEndS

/-- The base once the floor is known. -/
def floored : Base :=
  { base attempts faultOffsetS observationEndS with
    noiseFloorS := some (roundTo 6 (noiseFloor attempts faultOffsetS))
    noiseFloorSource := some (noiseFloorSource attempts faultOffsetS) }

def reportTooFew : RtoResult :=
  { base attempts faultOffsetS observationEndS with
    measurable := false
    detail := some ("fewer than two canary writes were served in the whole run, so there is " ++
      "no interval between observations to measure an outage against") }

def reportStillOpen (lastServed : ProbeAttempt) (openGap : ℚ) : RtoResult :=
  { floored attempts faultOffsetS observationEndS with
    measurable := false
    truncated := true
    outage := some
      { startedS := roundTo 6 lastServed.completeOffsetS
        endedS := none
        durationS := none
        atLeastS := some (roundTo 6 openGap) }
    detail := some ("writes stopped being served " ++ fixed 3 lastServed.completeOffsetS ++
      "s into the run and had not resumed " ++ fixed 3 openGap ++ "s later when the probe " ++
      "stopped. The recovery, if any, happened outside the observation window and this is " ++
      "not a measurement of it") }

def reportUncovered : RtoResult :=
  { floored attempts faultOffsetS observationEndS with
    measurable := false
    belowResolution := some false
    claim := some ("the probe stopped observing " ++ fixed 1 (orZero (lastOffset attempts)) ++
      "s into the run, " ++ fixed 1 (orZero (coverageGap attempts observationEndS)) ++
      "s before it ended; any outage after that point is UNMEASURED, not absent")
    detail := some ("no gap between served writes cleared the detection floor, but the " ++
      "probe's own observations stop well short of the end of the run, so that says nothing " ++
      "about the cluster. The usual cause is workers blocked on connections a partition " ++
      "black-holed: a server-side statement_timeout cannot arrive when packets cannot, so " ++
      "the attempts neither complete nor fail and the series simply ends. Check the " ++
      "outcome counts -- all `ok` with no timeouts or conn_errors is the signature") }

def reportBelowResolution : RtoResult :=
  { floored attempts faultOffsetS observationEndS with
    measurable := true
    belowResolution := some true
    claim := some ("no interruption in served writes was detectable after the fault" ++
      if noiseFloor attempts faultOffsetS ≠ 0 then
        "; any outage was shorter than the " ++
          fixed 0 (noiseFloor attempts faultOffsetS * 1000) ++
          " ms detection threshold (longest healthy gap plus one " ++
          fixed 0 (orZero (resolution attempts faultOffsetS) * 1000) ++ " ms sampling period)"
      else "")
    detail := some ("every gap between served writes after the fault was within the range " ++
      "the probe saw while the system was healthy. That is a result -- the outage, if any, " ++
      "was shorter than this probe can resolve -- and not a recovery time of zero") }

/-- The fraction of the gap for which the write that closed it was in flight; it may have
been dispatched before the gap opened. -/
def inFlightFraction (before after : ProbeAttempt) : ℚ :=
  let duration := gapLength (before, after)
  let overlapStart := max after.dispatchOffsetS before.completeOffsetS
  let overlap := max 0 (after.completeOffsetS - overlapStart)
  if duration ≠ 0 then min 1 (overlap / duration) else 0

def attribution : Attribution :=
  tailAttribution (healthyGaps attempts faultOffsetS) (postGaps attempts faultOffsetS)

/-- A gap that clears the floor without a heavier tail is not offered as a recovery time. -/
def attributable : Bool := (attribution attempts faultOffsetS).heavierAfterFault true

/-- The sentence on the outage that the record offers for quoting, or warns against. -/
def measuredClaim (before after : ProbeAttempt) : String :=
  let duration := gapLength (before, after)
  let started := RtoProbe.when (before.completeOffsetS - faultOffsetS)
  if attributable attempts faultOffsetS then
    "writes stopped being served " ++ started ++ " and resumed " ++
      fixed 0 ((after.completeOffsetS - faultOffsetS) * 1000) ++
      " ms after the fault, an observed outage of " ++ fixed 0 (duration * 1000) ++ " ms" ++
      if truthy (resolution attempts faultOffsetS) then
        ", measured at " ++ fixed 1 (orZero (resolution attempts faultOffsetS) * 1000) ++
          " ms resolution"
      else ""
  else
    let (observed, expected) := match attribution attempts faultOffsetS with
      | .untestable _ => ("None", "None")
      | .tested test =>
        (toString test.postFaultExceedances, fixed 1 test.expectedPostFaultExceedances)
    "a " ++ fixed 0 (duration * 1000) ++ " ms gap in served writes occurred " ++ started ++
      ", but it is NOT distinguishable from this probe's own tail: gaps over the healthy " ++
      "95th percentile occurred " ++ observed ++ " times after the fault against " ++ expected ++
      " expected from the pre-fault rate. Do not quote it as a recovery time -- the " ++
      "post-fault window is simply longer, so its maximum is larger for that reason alone"

def reportMeasured (before after : ProbeAttempt) : RtoResult :=
  let rto := after.completeOffsetS - faultOffsetS
  let duration := gapLength (before, after)
  { floored attempts faultOffsetS observationEndS with
    qualifyingGapsS := some ((sorted ((qualifying attempts faultOffsetS).map fun p =>
      roundTo 6 (gapLength p))).reverse.take 10)
    qualifyingGapCount := some (qualifying attempts faultOffsetS).length
    rtoS := some (roundTo 6 rto)
    rtoMs := some (roundTo 3 (rto * 1000))
    measurable := true
    belowResolution := some false
    outage := some
      { startedS := roundTo 6 before.completeOffsetS
        endedS := some (roundTo 6 after.completeOffsetS)
        durationS := some (roundTo 6 duration)
        startedAfterFaultS := some (roundTo 6 (before.completeOffsetS - faultOffsetS)) }
    observedOutageS := some (roundTo 6 duration)
    closedByInFlightWrite := some (1 / 2 ≤ inFlightFraction before after)
    inFlightFraction := some (roundTo 4 (inFlightFraction before after))
    attribution := some (attribution attempts faultOffsetS)
    faultAttributable := some (attributable attempts faultOffsetS)
    quotableValueS := if attributable attempts faultOffsetS then some (roundTo 6 rto) else none
    claim := some (measuredClaim attempts faultOffsetS before after) }

def report : Verdict → RtoResult
  | .tooFew => reportTooFew attempts faultOffsetS observationEndS
  | .stillOpen lastServed openGap =>
    reportStillOpen attempts faultOffsetS observationEndS lastServed openGap
  | .uncovered => reportUncovered attempts faultOffsetS observationEndS
  | .belowResolution => reportBelowResolution attempts faultOffsetS observationEndS
  | .measured before after => reportMeasured attempts faultOffsetS observationEndS before after

def measureRto : RtoResult :=
  report attempts faultOffsetS observationEndS (verdict attempts faultOffsetS observationEndS)

end Record

/-! ### What each branch says -/

variable {attempts : List ProbeAttempt} {faultOffsetS : ℚ} {observationEndS : Option ℚ}

lemma mem_healthyGaps {g : ℚ} : g ∈ healthyGaps attempts faultOffsetS ↔
    ∃ p ∈ gaps attempts, p.2.completeOffsetS < faultOffsetS ∧ gapLength p = g := by
  simp [healthyGaps, and_assoc]

lemma healthyGaps_nonneg : ∀ g ∈ healthyGaps attempts faultOffsetS, 0 ≤ g := by
  intro g hg
  obtain ⟨p, hp, -, rfl⟩ := mem_healthyGaps.mp hg
  exact gapLength_nonneg hp

lemma resolution_nonneg : 0 ≤ orZero (resolution attempts faultOffsetS) := by
  have hall : ∀ g ∈ (gaps attempts).map gapLength, 0 ≤ g := by
    intro g hg
    obtain ⟨p, hp, rfl⟩ := List.mem_map.mp hg
    exact gapLength_nonneg hp
  unfold resolution orElse
  split
  · exact resolutionOf_nonneg healthyGaps_nonneg
  · exact resolutionOf_nonneg hall

lemma noiseFloor_nonneg : 0 ≤ noiseFloor attempts faultOffsetS := by
  have hres := @resolution_nonneg attempts faultOffsetS
  unfold noiseFloor
  split
  · next longest h =>
    have := healthyGaps_nonneg longest (List.max?_mem h)
    linarith
  · linarith

lemma mem_qualifying {p : ProbeAttempt × ProbeAttempt} : p ∈ qualifying attempts faultOffsetS ↔
    p ∈ gaps attempts ∧ Qualifies attempts faultOffsetS p := by
  simp [qualifying]

lemma outage_eq_none_iff : outage attempts faultOffsetS = none ↔
    ∀ p ∈ gaps attempts, faultOffsetS ≤ p.2.completeOffsetS →
      gapLength p ≤ noiseFloor attempts faultOffsetS := by
  rw [outage, List.argmax_eq_none, qualifying, List.filter_eq_nil_iff]
  simp only [decide_eq_true_eq]
  simp only [Qualifies, not_and, not_lt]

lemma outage_eq_some {p : ProbeAttempt × ProbeAttempt} (h : outage attempts faultOffsetS = some p) :
    p ∈ gaps attempts ∧ Qualifies attempts faultOffsetS p ∧
      ∀ q ∈ gaps attempts, Qualifies attempts faultOffsetS q → gapLength q ≤ gapLength p := by
  have hmem := mem_qualifying.mp (List.argmax_mem h)
  exact ⟨hmem.1, hmem.2, fun q hq hQ => List.le_of_mem_argmax (mem_qualifying.mpr ⟨hq, hQ⟩) h⟩

lemma lastOffset_of_argmax {a : ProbeAttempt}
    (h : attempts.argmax ProbeAttempt.completeOffsetS = some a) :
    lastOffset attempts = some a.completeOffsetS := by
  rw [lastOffset, List.max?_eq_some_iff]
  refine ⟨List.mem_map.mpr ⟨a, List.argmax_mem h, rfl⟩, fun b hb => ?_⟩
  obtain ⟨c, hc, rfl⟩ := List.mem_map.mp hb
  exact List.le_of_mem_argmax hc h

variable (faultOffsetS observationEndS) in
/-- With two served writes there is a last one and a last attempt, and the branches are
tested on them. -/
lemma verdict_of_two_served (two : 2 ≤ (servedAttempts attempts).length) :
    ∃ lastServed last, (servedInOrder attempts).getLast? = some lastServed ∧
      lastOffset attempts = some last ∧
      verdict attempts faultOffsetS observationEndS =
        match outage attempts faultOffsetS with
        | some (before, after) => .measured before after
        | none =>
          if faultOffsetS ≤ lastServed.completeOffsetS ∧
              noiseFloor attempts faultOffsetS < last - lastServed.completeOffsetS then
            .stillOpen lastServed (last - lastServed.completeOffsetS)
          else if coverageTruncated attempts faultOffsetS observationEndS then .uncovered
          else .belowResolution := by
  have hlen : (servedInOrder attempts).length = (servedAttempts attempts).length :=
    length_sortOn _ _
  obtain ⟨lastServed, hs⟩ : ∃ a, (servedInOrder attempts).getLast? = some a := by
    refine Option.ne_none_iff_exists'.mp fun h => ?_
    rw [List.getLast?_eq_none_iff.mp h] at hlen
    simp at hlen
    omega
  have hmem := (mem_servedInOrder.mp (List.mem_of_getLast? hs)).1
  obtain ⟨a, ha⟩ : ∃ a, attempts.argmax ProbeAttempt.completeOffsetS = some a := by
    refine Option.ne_none_iff_exists'.mp fun h => ?_
    rw [List.argmax_eq_none.mp h] at hmem
    simp at hmem
  refine ⟨lastServed, a.completeOffsetS, hs, lastOffset_of_argmax ha, ?_⟩
  unfold verdict
  rw [hs, ha]
  simp only [hlen, not_lt.mpr two, if_false]

lemma verdict_ne_tooFew (two : 2 ≤ (servedAttempts attempts).length) :
    verdict attempts faultOffsetS observationEndS ≠ .tooFew := by
  obtain ⟨lastServed, last, -, -, hv⟩ := verdict_of_two_served faultOffsetS observationEndS two
  rw [hv]
  split
  · simp
  · split_ifs <;> simp

lemma verdict_of_few (few : (servedAttempts attempts).length < 2) :
    verdict attempts faultOffsetS observationEndS = .tooFew := by
  have hlen : (servedInOrder attempts).length = (servedAttempts attempts).length :=
    length_sortOn _ _
  unfold verdict
  split
  · simp [hlen, few]
  · rfl

lemma noiseFloorS_of_two_served (two : 2 ≤ (servedAttempts attempts).length) :
    (measureRto attempts faultOffsetS observationEndS).noiseFloorS =
      some (roundTo 6 (noiseFloor attempts faultOffsetS)) := by
  unfold measureRto
  cases h : verdict attempts faultOffsetS observationEndS with
  | tooFew => exact absurd h (verdict_ne_tooFew two)
  | stillOpen _ _ => rfl
  | uncovered => rfl
  | belowResolution => rfl
  | measured _ _ => rfl

end CrdbLab.MeasureRto
