import CrdbLab.Lib.OrderStat
import CrdbLab.Lib.Consecutive
import CrdbLab.Optional
import Mathlib.Data.List.MinMax
import Mathlib.Algebra.Order.Group.Unbundled.Abs

/-!
The time from the fault until the database accepted a write again, from the audit writer's
attempts.

The outage is the largest gap between acknowledged writes that closes at or after the fault
and exceeds a floor: the longest gap closing before the fault plus the typical gap. The
typical gap is the upper median over the whole run.
-/

namespace CrdbLab.AvailabilityRto

open CrdbLab.Lib.Rounding CrdbLab.Lib.KeySort CrdbLab.Lib.Consecutive CrdbLab.Lib.OrderStat
open CrdbLab.Optional

/-- How far, in write cadences, the last acknowledgement may fall short of the run's end
before the audit writer counts as having stopped observing. -/
def coverageSlackCadences : ℚ := 10

/-- One attempt of the audit writer, as `audit.csv` keeps it. -/
structure Attempt where
  time : ℚ
  seq : ℤ
  outcome : String
  deriving DecidableEq, Repr

section Quantities

variable (attempts : List Attempt) (faultMonotonic : ℚ) (observationEnd : Option ℚ)

/-- The times of the acknowledged writes, in the order of the list. -/
def acked : List ℚ := (attempts.filter fun a => a.outcome = "ack").map Attempt.time

def before : List ℚ := (acked attempts).filter fun t => t < faultMonotonic

def after : List ℚ := (acked attempts).filter fun t => faultMonotonic ≤ t

def gaps : List ℚ := diffs (acked attempts)

/-- The upper median of all gaps, those after the fault included. -/
def typicalGap : Option ℚ := (sorted (gaps attempts))[(gaps attempts).length / 2]?

def lastAttempt : Option ℚ := (attempts.map Attempt.time).max?

def lastAcked : Option ℚ := (acked attempts).max?

def coverageGap : Option ℚ :=
  match observationEnd, lastAcked attempts with
  | some endS, some last => some (endS - last)
  | _, _ => none

def slack : ℚ := orZero (typicalGap attempts) * coverageSlackCadences

def truncated : Bool := (coverageGap attempts observationEnd).any (slack attempts < ·)

/-- The gaps that closed before the fault. -/
def healthy : List ℚ :=
  ((consecutive (acked attempts)).filter fun p => p.2 < faultMonotonic).map fun p => p.2 - p.1

/-- The floor, where there is a healthy gap and the typical gap is not zero. -/
def floor : Option ℚ :=
  match (healthy attempts faultMonotonic).max?, typicalGap attempts with
  | some longest, some typical => if typical ≠ 0 then some (longest + typical) else none
  | _, _ => none

/-- The gaps that close at or after the fault and exceed the floor. -/
def qualifying (floor : ℚ) : List (ℚ × ℚ) :=
  (consecutive (acked attempts)).filter fun p => faultMonotonic ≤ p.2 ∧ floor < p.2 - p.1

/-- The longest qualifying gap. -/
def outage : Option (ℚ × ℚ) :=
  (floor attempts faultMonotonic).bind fun floor =>
    (qualifying attempts faultMonotonic floor).argmax fun p => p.2 - p.1

end Quantities

/-- The entries on how far the writer observed the run. -/
structure Coverage where
  lastAckOffsetS : Option ℚ
  lastAttemptOffsetS : Option ℚ
  observationEndOffsetS : Option ℚ
  coverageGapS : Option ℚ
  coverageTruncated : Option Bool
  deriving DecidableEq, Repr

/-- The record; an entry a branch does not set reads as missing. -/
structure Measured extends Coverage where
  availabilityRtoS : Option ℚ
  detail : Option String := none
  writeGapS : Option ℚ := none
  writesAcknowledgedAfterFault : ℕ
  resolutionS : Option ℚ
  detectionFloorS : Option ℚ := none
  outageObserved : Option Bool := none
  deriving DecidableEq, Repr

section Record

variable (attempts : List Attempt) (faultMonotonic : ℚ) (observationEnd : Option ℚ)

def coverage : Coverage where
  lastAckOffsetS := rounded 3 ((lastAcked attempts).map (· - faultMonotonic))
  lastAttemptOffsetS := rounded 3 ((lastAttempt attempts).map (· - faultMonotonic))
  observationEndOffsetS := rounded 3 (observationEnd.map (· - faultMonotonic))
  coverageGapS := rounded 3 (coverageGap attempts observationEnd)
  coverageTruncated := (coverageGap attempts observationEnd).map fun _ =>
    truncated attempts observationEnd

/-- The text of an optional number that was rounded to three decimals. -/
def shown (x : Option ℚ) : String := x.elim "None" (shortest 3)

def reportNoneAfter : Measured :=
  { coverage attempts faultMonotonic observationEnd with
    availabilityRtoS := none
    detail := some "no write was acknowledged after the fault"
    writesAcknowledgedAfterFault := 0
    resolutionS := roundedIf 4 (typicalGap attempts) }

/-- The acknowledgements stop early and no gap closed: the length is unmeasured. -/
def reportTruncated : Measured :=
  let cov := coverage attempts faultMonotonic observationEnd
  { cov with
    availabilityRtoS := none
    detail := some ("the last acknowledged write was " ++ shown cov.lastAckOffsetS ++
      "s after the fault and none followed for the remaining " ++ shown cov.coverageGapS ++
      "s of the run, so the interruption never closed while it was being observed; its " ++
      "length is unmeasured, not zero")
    writesAcknowledgedAfterFault := (after attempts faultMonotonic).length
    resolutionS := roundedIf 4 (typicalGap attempts)
    detectionFloorS := rounded 4 (floor attempts faultMonotonic) }

def reportMeasured (rto : ℚ) (writeGap : Option ℚ) : Measured :=
  { coverage attempts faultMonotonic observationEnd with
    availabilityRtoS := some (roundTo 3 rto)
    writeGapS := rounded 3 writeGap
    writesAcknowledgedAfterFault := (after attempts faultMonotonic).length
    resolutionS := roundedIf 4 (typicalGap attempts)
    detectionFloorS := rounded 4 (floor attempts faultMonotonic)
    outageObserved := some (outage attempts faultMonotonic).isSome }

/-- The interval to the next acknowledgement, measured back to the last one before the
fault unless that stands at zero. -/
def nextGap (firstAfter : ℚ) : Option ℚ :=
  let lastBefore := (before attempts faultMonotonic).max?
  if truthy lastBefore then lastBefore.map (firstAfter - ·) else none

def availabilityRto : Measured :=
  match (after attempts faultMonotonic).min? with
  | none => reportNoneAfter attempts faultMonotonic observationEnd
  | some firstAfter =>
    match outage attempts faultMonotonic with
    | some (gapStart, gapEnd) =>
      reportMeasured attempts faultMonotonic observationEnd (gapEnd - faultMonotonic)
        (some (gapEnd - gapStart))
    | none =>
      if truncated attempts observationEnd then
        reportTruncated attempts faultMonotonic observationEnd
      else
        reportMeasured attempts faultMonotonic observationEnd (firstAfter - faultMonotonic)
          (nextGap attempts faultMonotonic firstAfter)

end Record

/-! ### What each branch says -/

variable {attempts : List Attempt} {faultMonotonic : ℚ} {observationEnd : Option ℚ}

lemma mem_after {t : ℚ} :
    t ∈ after attempts faultMonotonic ↔ t ∈ acked attempts ∧ faultMonotonic ≤ t := by
  simp [after]

lemma after_min?_eq_none :
    (after attempts faultMonotonic).min? = none ↔ after attempts faultMonotonic = [] := by
  simp [List.min?_eq_none_iff]

lemma floor_eq_some {f : ℚ} : floor attempts faultMonotonic = some f ↔
    ∃ longest typical, (healthy attempts faultMonotonic).max? = some longest ∧
      typicalGap attempts = some typical ∧ typical ≠ 0 ∧ f = longest + typical := by
  unfold floor
  cases (healthy attempts faultMonotonic).max? <;> cases typicalGap attempts <;>
    simp [eq_comm]

lemma outage_eq_none_iff : outage attempts faultMonotonic = none ↔
    ∀ f, floor attempts faultMonotonic = some f →
      ∀ p ∈ consecutive (acked attempts), faultMonotonic ≤ p.2 → p.2 - p.1 ≤ f := by
  rw [outage, Option.bind_eq_none_iff]
  refine forall₂_congr fun f _ => ?_
  rw [List.argmax_eq_none, qualifying, List.filter_eq_nil_iff]
  simp

lemma outage_eq_some {p : ℚ × ℚ} (h : outage attempts faultMonotonic = some p) :
    ∃ f, floor attempts faultMonotonic = some f ∧ p ∈ consecutive (acked attempts) ∧
      faultMonotonic ≤ p.2 ∧ f < p.2 - p.1 := by
  obtain ⟨f, hf, hp⟩ := Option.bind_eq_some_iff.mp h
  have hmem := List.argmax_mem hp
  simp only [qualifying, List.mem_filter, decide_eq_true_eq] at hmem
  exact ⟨f, hf, hmem.1, hmem.2.1, hmem.2.2⟩

/-- An outage closes with an acknowledgement after the fault. -/
lemma after_ne_nil_of_outage {p : ℚ × ℚ} (h : outage attempts faultMonotonic = some p) :
    after attempts faultMonotonic ≠ [] := by
  obtain ⟨-, -, hp, hge, -⟩ := outage_eq_some h
  exact List.ne_nil_of_mem (mem_after.mpr ⟨(mem_of_mem_consecutive hp).2, hge⟩)

lemma availabilityRto_coverage :
    (availabilityRto attempts faultMonotonic observationEnd).toCoverage =
      coverage attempts faultMonotonic observationEnd := by
  unfold availabilityRto
  split
  · rfl
  · split
    · rfl
    · split <;> rfl

lemma coverageTruncated_iff :
    (availabilityRto attempts faultMonotonic observationEnd).coverageTruncated = some true ↔
      truncated attempts observationEnd = true := by
  rw [availabilityRto_coverage, coverage, truncated]
  cases coverageGap attempts observationEnd <;> simp

/-- Once a write is acknowledged after the fault, the floor is reported. -/
lemma detectionFloorS_eq (h : after attempts faultMonotonic ≠ []) :
    (availabilityRto attempts faultMonotonic observationEnd).detectionFloorS =
      rounded 4 (floor attempts faultMonotonic) := by
  unfold availabilityRto
  split
  · next hmin => exact absurd (after_min?_eq_none.mp hmin) h
  · split
    · rfl
    · split <;> rfl

/-- Which runs are given no recovery time. -/
lemma availabilityRtoS_eq_none_iff :
    (availabilityRto attempts faultMonotonic observationEnd).availabilityRtoS = none ↔
      after attempts faultMonotonic = [] ∨
        outage attempts faultMonotonic = none ∧ truncated attempts observationEnd = true := by
  unfold availabilityRto
  split
  · next hmin => simp [after_min?_eq_none.mp hmin, reportNoneAfter]
  · next firstAfter hmin =>
    have hne : after attempts faultMonotonic ≠ [] := by
      intro h
      simp [h] at hmin
    split
    · next hout => simp [hne, hout, reportMeasured]
    · next hout =>
      split
      · next htr => simp [hout, htr, reportTruncated]
      · next htr => simp [hne, htr, reportMeasured]

end CrdbLab.AvailabilityRto
