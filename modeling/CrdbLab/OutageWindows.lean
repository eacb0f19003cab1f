import CrdbLab.ReportedOutage

/-!
The windows between served writes, beside the outage that is measured from them.

Both describe the same gaps, and both say of a gap whether the write that closed it was in
flight. For a window that write must have been dispatched before the gap opened, for the
outage before its midpoint.
-/

namespace CrdbLab.OutageWindows

open CrdbLab.Lib.Rounding CrdbLab.Lib.KeySort CrdbLab.Lib.Consecutive
open CrdbLab.RtoProbe CrdbLab.MeasureRto CrdbLab.ReportedOutage

/-- An interval between neighbouring served writes. -/
structure Window where
  fromS : ℚ
  toS : ℚ
  durationS : ℚ
  closedByInFlightWrite : Bool
  deriving DecidableEq, Repr

def window (p : ProbeAttempt × ProbeAttempt) : Window where
  fromS := roundTo 6 p.1.completeOffsetS
  toS := roundTo 6 p.2.completeOffsetS
  durationS := roundTo 6 (gapLength p)
  closedByInFlightWrite := p.2.dispatchOffsetS ≤ p.1.completeOffsetS

/-- The windows of at least the given length, longest first. -/
def outageWindows (attempts : List ProbeAttempt) (minGapS : ℚ) : List Window :=
  sortOn (fun w => -w.durationS)
    (((gaps attempts).filter fun p => minGapS ≤ gapLength p).map window)

section Statement

/-- The window has the edges and the duration of the outage that is reported. -/
def SameGap (r : RtoResult) (w : Window) : Prop :=
  ∃ o, r.outage = some o ∧ o.startedS = w.fromS ∧ o.endedS = some w.toS ∧
    o.durationS = some w.durationS

/-- The outage that is reported has an end. -/
def Closed (r : RtoResult) : Prop := ∃ o, r.outage = some o ∧ o.endedS ≠ none

variable (attempts : List ProbeAttempt) (faultOffsetS : ℚ) (observationEndS : Option ℚ)

/-- Some longest gap of the run closes at or after the fault. -/
def LongestClosesAfter : Prop :=
  ∃ p ∈ gaps attempts, faultOffsetS ≤ p.2.completeOffsetS ∧
    ∀ q ∈ gaps attempts, gapLength q ≤ gapLength p

/-- The windows and the record agree on the outage of the record. -/
structure Alike : Prop where
  contained : ∃ w ∈ outageWindows attempts 0,
    SameGap (measureRto attempts faultOffsetS observationEndS) w
  inFlight : ∀ w ∈ outageWindows attempts 0,
    SameGap (measureRto attempts faultOffsetS observationEndS) w →
      (measureRto attempts faultOffsetS observationEndS).closedByInFlightWrite =
        some w.closedByInFlightWrite
  longest : ∃ observed first,
    (measureRto attempts faultOffsetS observationEndS).observedOutageS = some observed ∧
    (outageWindows attempts 0).head? = some first ∧ observed ≤ first.durationS ∧
    (LongestClosesAfter attempts faultOffsetS → observed = first.durationS)

/-- Of the longest gaps over the floor that close at or after the fault, the first. -/
structure FirstLongest (p : ProbeAttempt × ProbeAttempt) : Prop where
  mem : p ∈ gaps attempts
  qualifies : Qualifies attempts faultOffsetS p
  longest : ∀ q ∈ gaps attempts, Qualifies attempts faultOffsetS q → gapLength q ≤ gapLength p
  first : ∀ q ∈ gaps attempts, Qualifies attempts faultOffsetS q →
    gapLength p ≤ gapLength q → p.1.completeOffsetS ≤ q.1.completeOffsetS

end Statement

def midpoint (p : ProbeAttempt × ProbeAttempt) : ℚ :=
  (p.1.completeOffsetS + p.2.completeOffsetS) / 2

variable {attempts : List ProbeAttempt} {faultOffsetS : ℚ} {observationEndS : Option ℚ}

/-! ### The windows -/

lemma mem_outageWindows {w : Window} :
    w ∈ outageWindows attempts 0 ↔ ∃ p ∈ gaps attempts, window p = w := by
  simp only [outageWindows, mem_sortOn, List.mem_map, List.mem_filter, decide_eq_true_eq]
  constructor
  · rintro ⟨p, ⟨hp, -⟩, rfl⟩
    exact ⟨p, hp, rfl⟩
  · rintro ⟨p, hp, rfl⟩
    exact ⟨p, ⟨hp, gapLength_nonneg hp⟩, rfl⟩

/-- The first window is that of a longest gap. -/
lemma exists_first {p : ProbeAttempt × ProbeAttempt} (hp : p ∈ gaps attempts) :
    ∃ q ∈ gaps attempts, (outageWindows attempts 0).head? = some (window q) ∧
      ∀ g ∈ gaps attempts, roundTo 6 (gapLength g) ≤ roundTo 6 (gapLength q) := by
  have hmem : window p ∈ outageWindows attempts 0 := mem_outageWindows.mpr ⟨p, hp, rfl⟩
  obtain ⟨first, hfirst⟩ : ∃ first, (outageWindows attempts 0).head? = some first := by
    cases h : outageWindows attempts 0 with
    | nil => simp [h] at hmem
    | cons w t => exact ⟨w, rfl⟩
  obtain ⟨q, hq, rfl⟩ := mem_outageWindows.mp (List.mem_of_head? hfirst)
  refine ⟨q, hq, hfirst, fun g hg => ?_⟩
  have hle := key_head_le _ (ordered_sortOn _ _) hfirst (window g)
    (mem_outageWindows.mpr ⟨g, hg, rfl⟩)
  exact neg_le_neg_iff.mp hle

/-! ### The outage -/

lemma firstLongest_iff {p : ProbeAttempt × ProbeAttempt} :
    FirstLongest attempts faultOffsetS p ↔ outage attempts faultOffsetS = some p := by
  constructor
  · intro h
    obtain ⟨o, ho⟩ : ∃ o, outage attempts faultOffsetS = some o := by
      refine Option.ne_none_iff_exists'.mp fun hnone => ?_
      have := outage_eq_none_iff.mp hnone p h.mem h.qualifies.1
      exact absurd h.qualifies.2 (not_lt.mpr this)
    obtain ⟨hmem, hqual, hlongest⟩ := outage_eq_some ho
    have hlen : gapLength o = gapLength p :=
      le_antisymm (h.longest o hmem hqual) (hlongest p h.mem h.qualifies)
    have hopen : o.1.completeOffsetS = p.1.completeOffsetS :=
      le_antisymm (outage_first ho h.mem h.qualifies hlen.le)
        (h.first o hmem hqual hlen.ge)
    have hpos := gapLength_pos h.qualifies
    unfold gapLength at hlen hpos
    rcases eq_or_le_of_mem_consecutive _ (servedInOrder_ordered attempts) hmem h.mem with
      heq | hle | hle
    · rw [ho, heq]
    · linarith
    · linarith
  · intro h
    obtain ⟨hmem, hqual, hlongest⟩ := outage_eq_some h
    exact ⟨hmem, hqual, hlongest, fun q hq hQ hle => outage_first h hq hQ hle⟩

/-- The closing write was in flight for half of the gap if it was dispatched by the midpoint. -/
lemma half_le_inFlightFraction_iff {p : ProbeAttempt × ProbeAttempt} (h : 0 < gapLength p) :
    1 / 2 ≤ inFlightFraction p.1 p.2 ↔ p.2.dispatchOffsetS ≤ midpoint p := by
  rw [inFlightFraction_eq h, flightFraction, le_div_iff₀ h, commonLength, min_self, midpoint]
  unfold gapLength at h ⊢
  rw [le_max_iff]
  constructor
  · rintro (hle | hle)
    · linarith
    · have := le_max_left p.2.dispatchOffsetS p.1.completeOffsetS
      linarith
  · intro hle
    right
    have : max p.2.dispatchOffsetS p.1.completeOffsetS ≤
        (p.1.completeOffsetS + p.2.completeOffsetS) / 2 := max_le hle (by linarith)
    linarith

lemma closed_iff : Closed (measureRto attempts faultOffsetS observationEndS) ↔
    outage attempts faultOffsetS ≠ none := by
  cases h : outage attempts faultOffsetS with
  | some p =>
    rw [measureRto_of_outage h]
    simp [Closed, reportMeasured]
  | none =>
    unfold measureRto
    cases hv : verdict attempts faultOffsetS observationEndS with
    | measured before after => exact absurd hv (verdict_ne_measured h before after)
    | tooFew => simp [Closed, report, reportTooFew]
    | stillOpen _ _ => simp [Closed, report, reportStillOpen]
    | uncovered => simp [Closed, report, reportUncovered]
    | belowResolution => simp [Closed, report, reportBelowResolution]

lemma sameGap_iff {p : ProbeAttempt × ProbeAttempt} (h : outage attempts faultOffsetS = some p)
    {w : Window} : SameGap (measureRto attempts faultOffsetS observationEndS) w ↔
      (window p).fromS = w.fromS ∧ (window p).toS = w.toS ∧
        (window p).durationS = w.durationS := by
  rw [measureRto_of_outage h]
  simp [SameGap, reportMeasured, window]

lemma observed_le_first {p : ProbeAttempt × ProbeAttempt}
    (h : outage attempts faultOffsetS = some p) : ∃ first,
      (outageWindows attempts 0).head? = some first ∧
      roundTo 6 (gapLength p) ≤ first.durationS ∧
      (LongestClosesAfter attempts faultOffsetS → roundTo 6 (gapLength p) = first.durationS) := by
  obtain ⟨hmem, hqual, hlongest⟩ := outage_eq_some h
  obtain ⟨q, hq, hfirst, hmax⟩ := exists_first hmem
  refine ⟨window q, hfirst, hmax p hmem, ?_⟩
  rintro ⟨g, hg, hafter, hall⟩
  -- a longest gap of the run exceeds the floor as the outage does
  have hG : Qualifies attempts faultOffsetS g :=
    ⟨hafter, lt_of_lt_of_le hqual.2 (hall p hmem)⟩
  refine le_antisymm (hmax p hmem) (roundTo_mono 6 ?_)
  exact le_trans (hall q hq) (hlongest g hg hG)

/-- Five writes a tenth of a second apart, and one that was dispatched a tenth of a second
after the last of them and blocked. -/
def blocked : List ProbeAttempt :=
  ((List.range 5).map fun n : ℕ => ⟨n, n / 10, (n + 1) / 10, "ok", 0, "", ""⟩) ++
    [⟨5, 3 / 5, 5, "ok", 0, "", ""⟩]

end CrdbLab.OutageWindows
