import CrdbLab.Clocks
import CrdbLab.Lib.Dictionary
import CrdbLab.ProbeLog
import CrdbLab.RtoInvariance

/-!
What the probe achieved, as distinct from what it was configured to do.

The summary counts the outcomes and condenses the times into differences, so that it is the
same for every order of the attempts and on every clock.
-/

namespace CrdbLab.ProbeSummary

open CrdbLab.Lib.Rounding CrdbLab.Lib.KeySort CrdbLab.Lib.OrderStat CrdbLab.Lib.Consecutive
open CrdbLab.Lib.Dictionary CrdbLab.Optional CrdbLab.Clocks CrdbLab.RtoProbe CrdbLab.ProbeRows
open CrdbLab.ProbeLog (probeOutcomes)
open CrdbLab.RtoInvariance (shift later_perm later_shift)

structure Summary where
  attempts : ℕ
  outcomes : Dict String ℕ
  dispatchIntervalS : ℚ
  workers : ℤ
  ticks : ℤ
  dispatchSaturation : ℤ
  dispatchSaturationPct : Option ℚ
  ticksSpacedOut : ℤ
  achievedRatePerS : Option ℚ
  servedRatePerS : Option ℚ
  resolutionS : Option ℚ
  gapP50S : Option ℚ
  gapMaxS : Option ℚ
  medianWriteMs : Option ℚ
  spanS : ℚ
  deriving DecidableEq, Repr

/-- What only the dispatcher can observe, and what it was configured with. -/
structure Dispatch where
  ticks : ℤ := 0
  saturated : ℤ := 0
  spacedOut : ℤ := 0
  intervalS : ℚ := 1 / 500
  workers : ℤ := 8
  deriving DecidableEq, Repr

/-- Each known outcome, not seen yet. -/
def noOutcomes : Dict String ℕ := Dict.ofList (probeOutcomes.map fun name => (name, 0))

def outcomesOf (attempts : List ProbeAttempt) : Dict String ℕ :=
  noOutcomes.countAll (attempts.map ProbeAttempt.outcome)

/-- From the first dispatch to the last completion. -/
def spanOf (attempts : List ProbeAttempt) : ℚ :=
  match (attempts.map ProbeAttempt.completeOffsetS).max?,
    (attempts.map ProbeAttempt.dispatchOffsetS).min? with
  | some last, some first => last - first
  | _, _ => 0

/-- The completions of the served writes in order. -/
def servedTimes (attempts : List ProbeAttempt) : List ℚ :=
  sorted ((servedAttempts attempts).map ProbeAttempt.completeOffsetS)

/-- So many within the span, if there is one. -/
def ratePerS (count : ℕ) (span : ℚ) : Option ℚ :=
  if 0 < span then some (roundTo 2 (count / span)) else none

def summarise (attempts : List ProbeAttempt) (d : Dispatch) : Summary :=
  let served := servedTimes attempts
  let gaps := diffs served
  let span := spanOf attempts
  { attempts := attempts.length
    outcomes := outcomesOf attempts
    dispatchIntervalS := d.intervalS
    workers := d.workers
    ticks := d.ticks
    dispatchSaturation := d.saturated
    dispatchSaturationPct :=
      if d.ticks = 0 then none else some (roundTo 2 (100 * d.saturated / d.ticks))
    ticksSpacedOut := d.spacedOut
    achievedRatePerS := ratePerS attempts.length span
    servedRatePerS := ratePerS served.length span
    resolutionS := roundedIf 6 (resolutionOf gaps)
    gapP50S := rounded 6 (median gaps)
    gapMaxS := rounded 6 gaps.max?
    medianWriteMs := rounded 3 (median ((servedAttempts attempts).map durationMs))
    spanS := roundTo 3 span }

/-! ### Outcomes -/

lemma keys_noOutcomes : noOutcomes.entries.map Prod.fst = probeOutcomes := by decide +kernel

/-! ### Order and clock -/

section Times

variable (d : ℚ) (attempts : List ProbeAttempt)

/-- The numbers in increasing order, all of them moved. -/
lemma sorted_add (l : List ℚ) : sorted (l.map (· + d)) = (sorted l).map (· + d) :=
  (List.map_insertionSort _ _ (· + d) l fun a _ b _ => by simp).symm

lemma diffs_add (l : List ℚ) : diffs (l.map (· + d)) = diffs l := by
  rw [diffs, consecutive_map, List.map_map, diffs]
  exact List.map_congr_left fun p _ => by simp

lemma servedTimes_shift :
    servedTimes (attempts.map (shift d)) = (servedTimes attempts).map (· + d) := by
  rw [servedTimes, RtoInvariance.servedAttempts_shift, List.map_map, servedTimes, ← sorted_add,
    List.map_map]
  rfl

lemma spanOf_shift : spanOf (attempts.map (shift d)) = spanOf attempts := by
  have hcomplete : ((attempts.map (shift d)).map ProbeAttempt.completeOffsetS).max? =
      ((attempts.map ProbeAttempt.completeOffsetS).max?).map (· + d) :=
    (later_shift d attempts).last
  have hdispatch : ((attempts.map (shift d)).map ProbeAttempt.dispatchOffsetS).min? =
      ((attempts.map ProbeAttempt.dispatchOffsetS).min?).map (· + d) := by
    rw [List.map_map, ← min?_map_of_monotone (fun x y h => by linarith), List.map_map]
    rfl
  unfold spanOf
  rw [hcomplete, hdispatch]
  cases (attempts.map ProbeAttempt.completeOffsetS).max? with
  | none => rfl
  | some last =>
    cases (attempts.map ProbeAttempt.dispatchOffsetS).min? with
    | none => rfl
    | some first => simp

lemma durations_shift : (servedAttempts (attempts.map (shift d))).map durationMs =
    (servedAttempts attempts).map durationMs := by
  rw [RtoInvariance.servedAttempts_shift, List.map_map]
  exact List.map_congr_left fun a _ => by simp [durationMs, shift]

/-- **On another clock** the summary is the same. -/
lemma summarise_shift (c : Dispatch) :
    summarise (attempts.map (shift d)) c = summarise attempts c := by
  have houtcomes : outcomesOf (attempts.map (shift d)) = outcomesOf attempts := by
    rw [outcomesOf, List.map_map, outcomesOf]
    rfl
  unfold summarise
  simp only [servedTimes_shift, diffs_add, spanOf_shift, durations_shift, houtcomes,
    List.length_map]

end Times

lemma median_perm {l l' : List ℚ} (h : l'.Perm l) : median l' = median l := by
  rw [median, h.length_eq, sorted_perm h, median]

section Order

variable {attempts reordered : List ProbeAttempt} (h : reordered.Perm attempts)
include h

lemma servedTimes_perm : servedTimes reordered = servedTimes attempts :=
  sorted_perm ((h.filter _).map _)

lemma spanOf_perm : spanOf reordered = spanOf attempts := by
  rw [spanOf, max?_perm (h.map _), min?_perm (h.map _), spanOf]

/-- **In another order** the summary is the same, if every outcome is a known one. -/
lemma summarise_perm (hknown : ∀ a ∈ attempts, a.outcome ∈ probeOutcomes) (c : Dispatch) :
    summarise reordered c = summarise attempts c := by
  have houtcomes : outcomesOf reordered = outcomesOf attempts := by
    refine Dict.countAll_perm (h.map _) fun o ho => ?_
    obtain ⟨a, ha, rfl⟩ := List.mem_map.mp ho
    rw [keys_noOutcomes]
    exact hknown a ha
  have hdurations : median ((servedAttempts reordered).map durationMs) =
      median ((servedAttempts attempts).map durationMs) :=
    median_perm ((h.filter _).map _)
  unfold summarise
  simp only [servedTimes_perm h, spanOf_perm h, hdurations, houtcomes, h.length_eq]

end Order

end CrdbLab.ProbeSummary
