import CrdbLab.Loader

/-!
The availability recovery time as the analysis quotes it, and what it says about a tail of
the run that nobody observed.

A run whose acknowledgements stop early is marked as truncated, and no recovery time is to
be stated for it. The mark and the recovery time are decided in different branches: a gap
that closed after the fault is reported before the mark is looked at.
-/

namespace CrdbLab.Availability

open CrdbLab.Lib.Rounding CrdbLab.Lib.Consecutive CrdbLab.Optional
open CrdbLab.AvailabilityRto CrdbLab.Loader

/-- The last tick on the harness clock, or where that was not recorded, on the generator's. -/
def observationEnd (run : Run) : Option ℚ :=
  match (run.metrics.filterMap MetricsRow.wallOffsetS).max? with
  | some last => some last
  | none => (run.metrics.map MetricsRow.elapsedS).max?

/-- The measurement with the sentence on it that may be quoted. -/
structure Quote extends Measured where
  source : String
  belowResolution : Option Bool := none
  quotableValueS : Option ℚ := none
  claim : String
  caveat : Option String := none
  deriving DecidableEq, Repr

/-- What `availability` returns. -/
inductive Report where
  | unavailable (detail : String)
  | available (quote : Quote)
  deriving DecidableEq, Repr

def Report.quotableValueS : Report → Option ℚ
  | .unavailable _ => none
  | .available quote => quote.quotableValueS

/-- The text of the resolution, where it is neither missing nor zero. -/
def resolutionText (m : Measured) : String := fixed 2 (orZero m.resolutionS)

def quote (source : String) (m : Measured) : Quote :=
  match m.availabilityRtoS with
  | none =>
    if m.coverageTruncated = some true then
      { m with
        source := source
        claim := "the audit writer stopped observing " ++ shown m.coverageGapS ++
          " s before the run ended; the outage is UNMEASURED, not absent" }
    else
      { m with
        source := source
        claim := "no write was acknowledged after the fault within the run" }
  | some rto =>
    if truthy m.resolutionS = true ∧ rto < orZero m.resolutionS then
      { m with
        source := source
        belowResolution := some true
        claim := "no write interruption detectable at " ++ resolutionText m ++ " s resolution"
        caveat := some ("the measured interval is " ++ fixed 3 rto ++ " s, which is shorter " ++
          "than the gap between consecutive audit writes (" ++ resolutionText m ++ " s) and " ++
          "is therefore indistinguishable from no interruption. Do not quote it as a " ++
          "recovery time. The cadence is bounded by the cost of a quorum write on this " ++
          "topology (~70 ms), not by the profile's audit_interval_s") }
    else
      { m with
        source := source
        belowResolution := some false
        quotableValueS := some rto
        claim := "writes resumed " ++ fixed 2 rto ++ " s after the fault" ++
          if truthy m.resolutionS then ", measured at " ++ resolutionText m ++ " s resolution"
          else "" }

/-- The audit log decides where it survives, otherwise what was recorded at the time. -/
def availability (run : Run) : Report :=
  match run.auditCsv with
  | some attempts =>
    match run.events.injectedAtOffsetS with
    | none => .unavailable "no fault was injected"
    | some injected =>
      .available (quote "re-derived from audit.csv"
        (availabilityRto attempts injected (observationEnd run)))
  | none =>
    match run.events.availability with
    | none => .unavailable (run.runId ++ " predates both the audit attempt log and the " ++
        "availability RTO measurement, so the interval from the fault to the next " ++
        "acknowledged write cannot be recovered from this run. Its throughput-based " ++
        "performance RTO is unaffected")
    | some recorded =>
      .available (quote "events.json, as recorded at measurement time" recorded)

/-- Without a measured time there is nothing to quote. -/
lemma quotableValueS_of_none {source : String} {m : Measured} (h : m.availabilityRtoS = none) :
    (quote source m).quotableValueS = none := by
  unfold quote
  rw [h]
  dsimp only
  split <;> rfl

lemma availability_of_audit {run : Run} {attempts : List Attempt} {injected : ℚ}
    (haudit : run.auditCsv = some attempts)
    (hinjected : run.events.injectedAtOffsetS = some injected) :
    availability run = .available (quote "re-derived from audit.csv"
      (availabilityRto attempts injected (observationEnd run))) := by
  unfold availability
  rw [haudit, hinjected]

/-! ### The unobserved tail -/

variable (attempts : List Attempt) (faultMonotonic : ℚ) (endS : Option ℚ)

/-- A run marked as truncated states no recovery time, and none is quoted from it. -/
def StatesNoneWhenTruncated : Prop :=
  (availabilityRto attempts faultMonotonic endS).coverageTruncated = some true →
    (availabilityRto attempts faultMonotonic endS).availabilityRtoS = none ∧
      ∀ run : Run, run.auditCsv = some attempts →
        run.events.injectedAtOffsetS = some faultMonotonic →
        observationEnd run = endS → (availability run).quotableValueS = none

/-- The acknowledgements stop more than ten typical gaps before the end of the run, after
a gap that closed at or after the fault had already exceeded the floor. -/
def OutageBeforeSilence : Prop :=
  ∃ stop last longest typical, endS = some stop ∧
    (acked attempts).max? = some last ∧ typicalGap attempts = some typical ∧
    (healthy attempts faultMonotonic).max? = some longest ∧ typical ≠ 0 ∧
    typical * 10 < stop - last ∧
    ∃ p ∈ consecutive (acked attempts), faultMonotonic ≤ p.2 ∧ longest + typical < p.2 - p.1

variable {attempts faultMonotonic endS}

lemma truncated_iff : truncated attempts endS = true ↔
    ∃ stop last, endS = some stop ∧ lastAcked attempts = some last ∧
      slack attempts < stop - last := by
  unfold truncated coverageGap
  cases endS <;> cases lastAcked attempts <;> simp

lemma outage_ne_none_iff : outage attempts faultMonotonic ≠ none ↔
    ∃ longest typical, (healthy attempts faultMonotonic).max? = some longest ∧
      typicalGap attempts = some typical ∧ typical ≠ 0 ∧
      ∃ p ∈ consecutive (acked attempts), faultMonotonic ≤ p.2 ∧
        longest + typical < p.2 - p.1 := by
  rw [ne_eq, outage_eq_none_iff]
  refine ⟨fun h => ?_, ?_⟩
  · push Not at h
    obtain ⟨f, hf, p, hp, hge, hlt⟩ := h
    obtain ⟨longest, typical, hl, ht, hne, rfl⟩ := floor_eq_some.mp hf
    exact ⟨longest, typical, hl, ht, hne, p, hp, hge, hlt⟩
  · rintro ⟨longest, typical, hl, ht, hne, p, hp, hge, hlt⟩ hall
    have hle := hall _ (floor_eq_some.mpr ⟨longest, typical, hl, ht, hne, rfl⟩) p hp hge
    exact absurd hle (not_le.mpr hlt)

lemma outageBeforeSilence_iff : OutageBeforeSilence attempts faultMonotonic endS ↔
    truncated attempts endS = true ∧ outage attempts faultMonotonic ≠ none := by
  rw [truncated_iff, outage_ne_none_iff]
  refine ⟨?_, ?_⟩
  · rintro ⟨stop, last, longest, typical, he, hla, ht, hlo, hne, hgap, hp⟩
    refine ⟨⟨stop, last, he, hla, ?_⟩, longest, typical, hlo, ht, hne, hp⟩
    simpa [slack, ht, coverageSlackCadences] using hgap
  · rintro ⟨⟨stop, last, he, hla, hgap⟩, longest, typical, hlo, ht, hne, hp⟩
    refine ⟨stop, last, longest, typical, he, hla, ht, hlo, hne, ?_, hp⟩
    simpa [slack, ht, coverageSlackCadences] using hgap

/-- Writes acknowledged every tenth of a second, one that comes 1.7 s later, and then
silence until the run ends at 100 s. -/
def resumedThenSilent : Run where
  metrics := [{ elapsedS := 100 }]
  events := { injectedAtOffsetS := some (7 / 20) }
  auditCsv := some [⟨0, 1, "ack"⟩, ⟨1 / 10, 2, "ack"⟩, ⟨1 / 5, 3, "ack"⟩, ⟨3 / 10, 4, "ack"⟩,
    ⟨2, 5, "ack"⟩]

end CrdbLab.Availability
