import CrdbLab.Performance
import CrdbLab.Lib.Stretches

/-!
Whether the reported range of recovery times holds for every position of the fault.

The recovery depends on the fault only through the samples before it, so it is constant
between two neighbouring sample times and the range can be tested stretch by stretch. The
report looks at the two ends alone; a fault that fell in between may have recovered later
than both, or not at all.
-/

namespace CrdbLab.RecoveryRange

open CrdbLab.Lib.Rounding CrdbLab.Lib.Stretches CrdbLab.Loader CrdbLab.Clocks
open CrdbLab.SteadyState CrdbLab.FindRecovery CrdbLab.Performance

/-- What rounding may move: half a unit of the last decimal for the position of the fault
and as much for the recovery time. -/
def rounding : ℚ := 1 / 1000

/-- A recovery time is in the reported range, or is the reported value, up to rounding. -/
def Covers (p : PerformanceRto) (rto : ℚ) : Prop :=
  match p.rtoBoundsS, p.rtoS with
  | some (low, high), _ => low - rounding ≤ rto ∧ rto ≤ high + rounding
  | none, some value => value - rounding ≤ rto ∧ rto ≤ value + rounding
  | none, none => False

section Statements

variable (std sum : List ℚ → ℚ) (run : Run) (alignment : ClockAlignment) (wall : ℚ)

/-- When throughput was back for good, with the fault at a position on the generator's
clock. -/
def recoveredAt (faultAtS : ℚ) : Option ℚ :=
  recovered sum (series run alignment) (recoveryThreshold run) (recoveryHoldS run) faultAtS

/-- If a recovery time is reported, then wherever the fault fell throughput was back for
good, and the time that took is covered by the report. -/
def RangeSound : Prop :=
  ∀ p, performance std sum run alignment = .ok p → p.defined = true →
    ∀ offset, alignment.lowerS ≤ offset → offset ≤ alignment.upperS →
      ∃ s, recoveredAt sum run alignment (wall - offset) = some s ∧ Covers p (s - (wall - offset))

/-- The recovery time with the fault at one end, to three decimals. -/
def endRto (faultAtS : ℚ) : Option ℚ :=
  (recoveredAt sum run alignment faultAtS).map (rtoOf faultAtS)

/-- Where both ends recover, so does the earliest position and every stretch between sample
times, and none of them by less than the shorter or by more than the longer of the two. -/
def StretchesCovered : Prop :=
  ∀ first last, endRto sum run alignment (roundTo 3 (wall - alignment.upperS)) = some first →
    endRto sum run alignment (roundTo 3 (wall - alignment.lowerS)) = some last →
    let low := min first last - rounding
    let high := max first last + rounding
    let earliest := wall - alignment.upperS
    let latest := wall - alignment.lowerS
    (∃ s, recoveredAt sum run alignment earliest = some s ∧ low ≤ s - earliest ∧
        s - earliest ≤ high) ∧
      ∀ p ∈ stretches ((series run alignment).map Sample.offsetS) earliest latest,
        ∃ s, recoveredAt sum run alignment p.2 = some s ∧ low ≤ s - p.2 ∧ s - p.1 ≤ high

end Statements

variable {std sum : List ℚ → ℚ} {run : Run} {alignment : ClockAlignment} {wall : ℚ}

lemma constantBetween_recoveredAt :
    ConstantBetween ((series run alignment).map Sample.offsetS) (recoveredAt sum run alignment) := by
  intro x y hxy hnone
  refine recovered_congr fun s hs => ?_
  have h := hnone s.offsetS (List.mem_map_of_mem hs)
  exact ⟨fun hx => hx.trans_le hxy, fun hy => not_le.mp fun hx => h ⟨hx, hy⟩⟩

/-! ### What the report covers -/

lemma covers_one {out : PerformanceRto} (hout : out.rtoBoundsS = none) (recorded : Option ℚ)
    {rtos : List ℚ} {rto : ℚ} (h : rtos.dedup = [rto]) (x : ℚ) :
    Covers (reportDefined out recorded rtos) x ↔ rto - rounding ≤ x ∧ x ≤ rto + rounding := by
  unfold reportDefined Covers
  rw [h]
  simp only [hout]

lemma covers_two {out : PerformanceRto} (hout : out.rtoBoundsS = none) (recorded : Option ℚ)
    (first last x : ℚ) :
    Covers (reportDefined out recorded [first, last]) x ↔
      min first last - rounding ≤ x ∧ x ≤ max first last + rounding := by
  by_cases heq : first = last
  · subst heq
    have hdedup : [first, first].dedup = [first] := by simp
    rw [covers_one hout recorded hdedup, min_self, max_self]
  · have hdedup : [first, last].dedup = [first, last] := by
      rw [List.dedup_eq_self]
      simpa using heq
    unfold reportDefined Covers
    rw [hdedup]
    simp [List.min?_cons, List.max?_cons, Optional.orZero]

/-- Under a bounded clock the report rests on the recovery times at the two ends. -/
lemma performance_bounded (hbounded : alignment.exact = false)
    (hle : alignment.lowerS ≤ alignment.upperS)
    (hwall : run.events.injectedAtOffsetS = some wall) :
    ∃ p, performance std sum run alignment = .ok p ∧
      (p.defined = true → ∃ first last,
        endRto sum run alignment (roundTo 3 (wall - alignment.upperS)) = some first ∧
          endRto sum run alignment (roundTo 3 (wall - alignment.lowerS)) = some last) ∧
      ∀ first last, endRto sum run alignment (roundTo 3 (wall - alignment.upperS)) = some first →
        endRto sum run alignment (roundTo 3 (wall - alignment.lowerS)) = some last →
        p.defined = true ∧
          ∀ x, Covers p x ↔ min first last - rounding ≤ x ∧ x ≤ max first last + rounding := by
  obtain ⟨state, hstate⟩ := @postFaultSteadyState_ok std run alignment
    fun wall => ⟨_, separation_bounded hbounded⟩
  obtain ⟨out, floor, rtos, hout, -, hrtos, hp⟩ :=
    performance_of_points hwall (faultPoints_bounded hbounded hle) hstate
  refine ⟨_, hp, ?_⟩
  have hend : ∀ x, (recompute sum (series run alignment) (recoveryThreshold run) (recoveryHoldS run)
      x).rtoS = endRto sum run alignment x := by
    intro x
    simp [recompute, endRto, recoveredAt]
  simp only [hend] at hrtos
  by_cases heq : roundTo 3 (wall - alignment.upperS) = roundTo 3 (wall - alignment.lowerS)
  · rw [if_pos heq] at hrtos
    rw [heq]
    cases hlast : endRto sum run alignment (roundTo 3 (wall - alignment.lowerS)) with
    | none => simp [hrtos, hlast, reportUndefined_defined]
    | some last =>
      refine ⟨fun _ => ⟨last, last, rfl, rfl⟩, ?_⟩
      rintro _ _ ⟨⟩ ⟨⟩
      have hdedup : [last].dedup = [last] := by simp
      simp [hrtos, hlast, List.reduceOption, reportDefined_defined,
        covers_one hout (recorded run) hdedup]
  · rw [if_neg heq] at hrtos
    cases hfirst : endRto sum run alignment (roundTo 3 (wall - alignment.upperS)) with
    | none => simp [hrtos, hfirst, reportUndefined_defined]
    | some first =>
      cases hlast : endRto sum run alignment (roundTo 3 (wall - alignment.lowerS)) with
      | none => simp [hrtos, hlast, reportUndefined_defined]
      | some last =>
        refine ⟨fun _ => ⟨first, last, rfl, rfl⟩, ?_⟩
        rintro _ _ ⟨⟩ ⟨⟩
        simp [hrtos, hfirst, hlast, List.reduceOption, reportDefined_defined, covers_two hout]

/-- Samples ten seconds apart with a dip at 20 s. The envelope leaves up to 20 s for the
offset, and the fault is recorded at 25 s on the harness clock. -/
def dipped : Run where
  metrics := [(0, 100), (10, 100), (20, 0), (30, 100), (40, 100)].map fun (elapsed, tps) =>
    { elapsedS := elapsed, tps := tps }
  events :=
    { injectedAtOffsetS := some 25
      tStartUtc := some 0
      tEndUtc := some 60
      recoveryHoldS := some 5 }

end CrdbLab.RecoveryRange
