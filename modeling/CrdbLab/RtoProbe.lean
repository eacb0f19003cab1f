import CrdbLab.Optional
import CrdbLab.Lib.Double
import CrdbLab.Lib.OrderStat
import CrdbLab.Lib.Consecutive

/-!
The attempts of the availability probe, and the statistics its analysis is built from.

An attempt is one canary write as the client saw it, placed by the offsets of its dispatch
and of its completion. What is measured is the sequence of served writes in completion
order and the gaps between neighbours in it.
-/

namespace CrdbLab.RtoProbe

open CrdbLab.Lib.Rounding CrdbLab.Lib.Double CrdbLab.Lib.KeySort CrdbLab.Lib.Consecutive
open CrdbLab.Lib.OrderStat CrdbLab.Optional

/-- One canary write. The outcome is the text on the wire, which a recorded file or a
remote agent may have set to anything; only `ok` counts as served. -/
structure ProbeAttempt where
  seqId : ℤ
  dispatchOffsetS : ℚ
  completeOffsetS : ℚ
  outcome : String
  worker : ℤ
  detail : String := ""
  tsUtc : String := ""
  deriving DecidableEq, Repr

def ProbeAttempt.served (a : ProbeAttempt) : Bool := a.outcome == "ok"

def servedAttempts (attempts : List ProbeAttempt) : List ProbeAttempt :=
  attempts.filter ProbeAttempt.served

/-- The phrase for an offset from the fault. -/
def when (offsetS : ℚ) : String :=
  if offsetS < -(1 / 20) then fixed 1 (-offsetS) ++ "s before the fault was injected"
  else if offsetS < 1 / 20 then "as the fault was injected"
  else fixed 1 offsetS ++ "s after the fault"

/-- The interval an RTO may be quoted to: the 95th percentile of the gaps. -/
def resolutionOf (gaps : List ℚ) : Option ℚ := quantile gaps (95 / 100)

/-- The rates of gaps over the healthy 95th percentile, before and after the fault. -/
structure TailTest where
  referenceS : ℚ
  preFaultGaps : ℕ
  postFaultGaps : ℕ
  preFaultExceedances : ℕ
  postFaultExceedances : ℕ
  expectedPostFaultExceedances : ℚ
  exceedanceRateRatio : Option ℚ
  heavierAfterFault : Bool
  deriving DecidableEq, Repr

/-- The answer to whether the tail is heavier after the fault, with its evidence. -/
inductive Attribution
  | untestable (detail : String)
  | tested (test : TailTest)
  deriving DecidableEq, Repr

def Attribution.testable : Attribution → Bool
  | untestable _ => false
  | tested _ => true

/-- The entry `heavier_after_fault`, or the default where the comparison was not made. -/
def Attribution.heavierAfterFault (default : Bool) : Attribution → Bool
  | untestable _ => default
  | tested test => test.heavierAfterFault

/-- The comparison of the two rates, which are rounded and so is their quotient. -/
def tailAttribution (preGaps postGaps : List ℚ) : Attribution :=
  if preGaps.length < 20 ∨ postGaps = [] then
    .untestable ("only " ++ toString preGaps.length ++ " pre-fault gap(s); too few to " ++
      "characterise the healthy tail, so an observed outage cannot be distinguished from " ++
      "it either way")
  else
    let reference := orZero (quantile preGaps (95 / 100))
    let preOver := (preGaps.filter (reference < ·)).length
    let postOver := (postGaps.filter (reference < ·)).length
    let preRate := double (preOver / preGaps.length)
    let postRate := double (postOver / postGaps.length)
    let expected := double (preRate * postGaps.length)
    let ratio := if 0 < preRate then some (double (postRate / preRate)) else none
    .tested
      { referenceS := roundTo 6 reference
        preFaultGaps := preGaps.length
        postFaultGaps := postGaps.length
        preFaultExceedances := preOver
        postFaultExceedances := postOver
        expectedPostFaultExceedances := roundDouble 1 expected
        exceedanceRateRatio := ratio.map (roundDouble 2)
        heavierAfterFault := ratio.any (3 / 2 ≤ ·) }

/-- The served writes in completion order. -/
def servedInOrder (attempts : List ProbeAttempt) : List ProbeAttempt :=
  sortOn ProbeAttempt.completeOffsetS (servedAttempts attempts)

/-- The intervals between neighbours among the served writes. -/
def gaps (attempts : List ProbeAttempt) : List (ProbeAttempt × ProbeAttempt) :=
  consecutive (servedInOrder attempts)

/-- How long no write was served between the two. -/
def gapLength (p : ProbeAttempt × ProbeAttempt) : ℚ :=
  p.2.completeOffsetS - p.1.completeOffsetS

lemma servedInOrder_ordered (attempts : List ProbeAttempt) :
    Ordered ProbeAttempt.completeOffsetS (servedInOrder attempts) := ordered_sortOn _ _

lemma mem_servedInOrder {attempts : List ProbeAttempt} {a : ProbeAttempt} :
    a ∈ servedInOrder attempts ↔ a ∈ attempts ∧ a.served = true := by
  simp [servedInOrder, servedAttempts]

lemma gapLength_nonneg {attempts : List ProbeAttempt} {p : ProbeAttempt × ProbeAttempt}
    (h : p ∈ gaps attempts) : 0 ≤ gapLength p :=
  sub_nonneg.mpr (key_le_of_mem_consecutive _ (servedInOrder_ordered attempts) h)

lemma gaps_length (attempts : List ProbeAttempt) :
    (gaps attempts).length = (servedAttempts attempts).length - 1 := by
  simp [gaps, length_consecutive, servedInOrder]

/-- The lengths of the gaps are the differences of the completion offsets in order. -/
lemma map_gapLength (attempts : List ProbeAttempt) :
    (gaps attempts).map gapLength =
      diffs ((servedInOrder attempts).map ProbeAttempt.completeOffsetS) :=
  map_consecutive_eq_diffs _ _

lemma resolutionOf_mem {l : List ℚ} {r : ℚ} (h : resolutionOf l = some r) : r ∈ l := by
  by_cases hl : l = []
  · simp [hl, resolutionOf] at h
  · obtain ⟨x, hx, hq⟩ := quantile_mem hl (95 / 100 : ℚ)
    rw [resolutionOf, hq, Option.some.injEq] at h
    exact h ▸ hx

/-- A gap is a resolution only if it is one of the gaps, so it is never negative. -/
lemma resolutionOf_nonneg {l : List ℚ} (h : ∀ g ∈ l, 0 ≤ g) : 0 ≤ orZero (resolutionOf l) := by
  rcases hr : resolutionOf l with _ | r
  · exact le_refl _
  · exact h r (resolutionOf_mem hr)

end CrdbLab.RtoProbe
