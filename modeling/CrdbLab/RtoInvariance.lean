import CrdbLab.ReportedOutage

/-!
The recovery time under a change of order and a change of clock.

The analysis compares offsets with one another, so that moving all of them moves what it
reports with them. Of the order of the attempts it reads only that of their completion, but
for one thing: of several writes that complete at once it takes the first in the list.
-/

namespace CrdbLab.RtoInvariance

open CrdbLab.Lib.Rounding CrdbLab.Lib.KeySort CrdbLab.Lib.Consecutive
open CrdbLab.Optional CrdbLab.RtoProbe CrdbLab.MeasureRto CrdbLab.ReportedOutage

/-! ### What is compared -/

/-- The attempt on a clock that is `d` ahead. -/
def shift (d : ℚ) (a : ProbeAttempt) : ProbeAttempt :=
  { a with
    dispatchOffsetS := a.dispatchOffsetS + d
    completeOffsetS := a.completeOffsetS + d }

/-- The record without the entry that the order of simultaneous writes decides, and its
flag. -/
def withoutFlight (r : RtoResult) : RtoResult :=
  { r with closedByInFlightWrite := none, inFlightFraction := none }

/-- The record without the edges in absolute time and without its sentences, which name
them. -/
def relative (r : RtoResult) : RtoResult :=
  { r with
    lastObservationOffsetS := none
    observationEndOffsetS := none
    outage := r.outage.map fun o =>
      { o with startedS := 0, endedS := o.endedS.map fun _ => 0 }
    claim := none
    detail := none }

/-- The rounded edges in absolute time. -/
def absoluteEdges (r : RtoResult) : List ℚ :=
  r.lastObservationOffsetS.toList ++ (r.outage.map Outage.startedS).toList ++
    (r.outage.bind Outage.endedS).toList

/-- The attempts whose completions the verdict names as edges. -/
def named : Verdict → List ProbeAttempt
  | .stillOpen lastServed _ => [lastServed]
  | .measured before after => [before, after]
  | _ => []

/-- The edges in absolute time before they are rounded. -/
def exactEdges (attempts : List ProbeAttempt) (faultOffsetS : ℚ) (observationEndS : Option ℚ) :
    List ℚ :=
  (lastOffset attempts).toList ++
    (named (verdict attempts faultOffsetS observationEndS)).map ProbeAttempt.completeOffsetS

/-- Halfway between two microseconds. -/
def Halfway (x : ℚ) : Prop := x * 10 ^ 6 - ⌊x * 10 ^ 6⌋ = 1 / 2

/-- Any order of the attempts gives the same record. -/
def OrderFree (attempts : List ProbeAttempt) (faultOffsetS : ℚ) (observationEndS : Option ℚ) :
    Prop :=
  ∀ reordered : List ProbeAttempt, reordered.Perm attempts →
    measureRto reordered faultOffsetS observationEndS =
      measureRto attempts faultOffsetS observationEndS

/-- Every served write that completes when the outage ends was in flight for the same part of
it, as far as the record tells. -/
def SimultaneousAlike (attempts : List ProbeAttempt) (faultOffsetS : ℚ) : Prop :=
  ∀ p, outage attempts faultOffsetS = some p → ∀ a ∈ attempts, a.served = true →
    a.completeOffsetS = p.2.completeOffsetS →
      roundTo 4 (inFlightFraction p.1 a) = roundTo 4 (inFlightFraction p.1 p.2) ∧
      (1 / 2 ≤ inFlightFraction p.1 a ↔ 1 / 2 ≤ inFlightFraction p.1 p.2)

/-! ### The analysis as a function of times -/

def edges (p : ProbeAttempt × ProbeAttempt) : ℚ × ℚ := (p.1.completeOffsetS, p.2.completeOffsetS)

def span (q : ℚ × ℚ) : ℚ := q.2 - q.1

/-- The edges of the gaps between served writes. -/
def spans (attempts : List ProbeAttempt) : List (ℚ × ℚ) :=
  consecutive ((servedInOrder attempts).map ProbeAttempt.completeOffsetS)

section Times

variable (attempts : List ProbeAttempt) (faultOffsetS : ℚ)

lemma map_edges_gaps : (gaps attempts).map edges = spans attempts :=
  (consecutive_map _ _).symm

/-- The lengths of the gaps selected by the offset they close at. -/
lemma map_gapLength_filter (keep : ℚ → Bool) :
    ((gaps attempts).filter fun p => keep p.2.completeOffsetS).map gapLength =
      ((spans attempts).filter fun q => keep q.2).map span := by
  rw [← map_edges_gaps, List.filter_map, List.map_map]
  rfl

lemma map_edges_qualifying : (qualifying attempts faultOffsetS).map edges =
    (spans attempts).filter fun q =>
      faultOffsetS ≤ q.2 ∧ noiseFloor attempts faultOffsetS < span q := by
  rw [← map_edges_gaps, List.filter_map]
  rfl

lemma map_edges_outage : (outage attempts faultOffsetS).map edges =
    ((qualifying attempts faultOffsetS).map edges).argmax span := by
  have hspan : ∀ p, span (edges p) = gapLength p := fun _ => rfl
  rw [argmax_map gapLength hspan, outage]

end Times

/-- The times of the other list are those of the one, `d` later. -/
structure Later (d : ℚ) (l l' : List ProbeAttempt) : Prop where
  served : (servedInOrder l').map ProbeAttempt.completeOffsetS =
    ((servedInOrder l).map ProbeAttempt.completeOffsetS).map (· + d)
  failures : ∀ faultOffsetS,
    (failuresAfter l' (faultOffsetS + d)).map ProbeAttempt.completeOffsetS =
      ((failuresAfter l faultOffsetS).map ProbeAttempt.completeOffsetS).map (· + d)
  last : lastOffset l' = (lastOffset l).map (· + d)

/-- An order of the same attempts. -/
lemma later_perm {l l' : List ProbeAttempt} (h : l'.Perm l) : Later 0 l l' where
  served := by
    simp only [add_zero, List.map_id']
    exact map_sortOn_perm _ (h.filter _)
  failures faultOffsetS := by
    simp only [add_zero, List.map_id']
    exact map_sortOn_perm _ (h.filter _)
  last := by
    simp only [add_zero, Option.map_id']
    exact max?_perm (h.map _)

/-- Sorting by a key that a map moves up as a whole. -/
lemma sortOn_shift (d : ℚ) (l : List ProbeAttempt) :
    sortOn ProbeAttempt.completeOffsetS (l.map (shift d)) =
      (sortOn ProbeAttempt.completeOffsetS l).map (shift d) :=
  (List.map_insertionSort _ _ (shift d) l fun a _ b _ => by simp [shift]).symm

lemma servedInOrder_shift (d : ℚ) (l : List ProbeAttempt) :
    servedInOrder (l.map (shift d)) = (servedInOrder l).map (shift d) := by
  rw [servedInOrder, servedAttempts, List.filter_map, sortOn_shift]
  rfl

/-- The attempts on a clock that is ahead. -/
lemma later_shift (d : ℚ) (l : List ProbeAttempt) : Later d l (l.map (shift d)) where
  served := by
    rw [servedInOrder_shift, List.map_map, List.map_map]
    rfl
  failures faultOffsetS := by
    have hkeep : ((fun a : ProbeAttempt => !a.served && faultOffsetS + d ≤ a.completeOffsetS) ∘
        shift d) = fun a => !a.served && faultOffsetS ≤ a.completeOffsetS :=
      funext fun a => by simp [shift, ProbeAttempt.served]
    rw [failuresAfter, List.filter_map, hkeep, sortOn_shift, List.map_map, List.map_map]
    rfl
  last := by
    have hmap : (l.map (shift d)).map ProbeAttempt.completeOffsetS =
        (l.map ProbeAttempt.completeOffsetS).map (· + d) := by
      rw [List.map_map, List.map_map]
      rfl
    rw [lastOffset, hmap, lastOffset]
    exact max?_map_of_monotone (fun x y h => by linarith) _

/-! ### The quantities -/

section Quantities

variable {d : ℚ} {l l' : List ProbeAttempt} (h : Later d l l')
variable (faultOffsetS : ℚ) (observationEndS : Option ℚ)
include h

lemma spans_later : spans l' = (spans l).map (Prod.map (· + d) (· + d)) := by
  rw [spans, h.served, consecutive_map, spans]

omit h in
lemma span_later (q : ℚ × ℚ) : span (Prod.map (· + d) (· + d) q) = span q :=
  add_sub_add_right_eq_sub q.2 q.1 d

/-- The lengths of the gaps selected by the offset they close at, by a test that moves with
the clock. -/
lemma selectedGaps_later (keep keep' : ℚ → Bool) (hkeep : ∀ x, keep' (x + d) = keep x) :
    ((gaps l').filter fun p => keep' p.2.completeOffsetS).map gapLength =
      ((gaps l).filter fun p => keep p.2.completeOffsetS).map gapLength := by
  rw [map_gapLength_filter, map_gapLength_filter, spans_later h, List.filter_map, List.map_map]
  have htest : ((fun q : ℚ × ℚ => keep' q.2) ∘ Prod.map (· + d) (· + d)) = fun q => keep q.2 :=
    funext fun q => hkeep q.2
  rw [htest]
  exact List.map_congr_left fun q _ => span_later q

lemma healthyGaps_later : healthyGaps l' (faultOffsetS + d) = healthyGaps l faultOffsetS :=
  selectedGaps_later h (fun x => x < faultOffsetS) (fun x => x < faultOffsetS + d) fun x => by simp

lemma postGaps_later : postGaps l' (faultOffsetS + d) = postGaps l faultOffsetS :=
  selectedGaps_later h (fun x => faultOffsetS ≤ x) (fun x => faultOffsetS + d ≤ x) fun x => by simp

lemma resolution_later : resolution l' (faultOffsetS + d) = resolution l faultOffsetS := by
  have hall := selectedGaps_later h (fun _ => true) (fun _ => true) fun _ => rfl
  simp only [List.filter_true] at hall
  rw [resolution, healthyGaps_later h, hall, resolution]

lemma detectionLag_later :
    detectionLag l' (faultOffsetS + d) = detectionLag l faultOffsetS := by
  have hlag : ∀ m f, detectionLag m f =
      ((failuresAfter m f).map ProbeAttempt.completeOffsetS).head?.map fun x =>
        roundTo 6 (x - f) := by
    intro m f
    rw [detectionLag, List.head?_map, Option.map_map]
    rfl
  rw [hlag, hlag, h.failures, List.head?_map, Option.map_map]
  refine congrArg (fun g => Option.map g _) (funext fun x => ?_)
  simp

lemma map_afterFault_later : (afterFault l' (faultOffsetS + d)).map ProbeAttempt.completeOffsetS =
    ((afterFault l faultOffsetS).map ProbeAttempt.completeOffsetS).map (· + d) := by
  have hafter : ∀ m f, (afterFault m f).map ProbeAttempt.completeOffsetS =
      ((servedInOrder m).map ProbeAttempt.completeOffsetS).filter (f ≤ ·) := by
    intro m f
    rw [List.filter_map]
    rfl
  rw [hafter, hafter, h.served, List.filter_map]
  refine congrArg _ (List.filter_congr fun x _ => ?_)
  simp

lemma nextAfter_later : nextAfter l' (faultOffsetS + d) = nextAfter l faultOffsetS := by
  have hnext : ∀ m f, nextAfter m f =
      ((afterFault m f).map ProbeAttempt.completeOffsetS).head?.map fun x =>
        roundTo 6 (x - f) := by
    intro m f
    rw [nextAfter, List.head?_map, Option.map_map]
    rfl
  rw [hnext, hnext, map_afterFault_later h, List.head?_map, Option.map_map]
  refine congrArg (fun g => Option.map g _) (funext fun x => ?_)
  simp

lemma length_afterFault_later :
    (afterFault l' (faultOffsetS + d)).length = (afterFault l faultOffsetS).length := by
  simpa using congrArg List.length (map_afterFault_later h faultOffsetS)

lemma length_servedInOrder_later : (servedInOrder l').length = (servedInOrder l).length := by
  simpa using congrArg List.length h.served

lemma coverageGap_later :
    coverageGap l' (observationEndS.map (· + d)) = coverageGap l observationEndS := by
  unfold coverageGap
  rw [h.last]
  cases observationEndS with
  | none => rfl
  | some endS =>
    cases lastOffset l with
    | none => rfl
    | some last => simp

lemma coverageTruncated_later :
    coverageTruncated l' (faultOffsetS + d) (observationEndS.map (· + d)) =
      coverageTruncated l faultOffsetS observationEndS := by
  rw [coverageTruncated, coverageGap_later h, resolution_later h, coverageTruncated]

lemma noiseFloor_later : noiseFloor l' (faultOffsetS + d) = noiseFloor l faultOffsetS := by
  rw [noiseFloor, healthyGaps_later h, resolution_later h, noiseFloor]

lemma noiseFloorSource_later :
    noiseFloorSource l' (faultOffsetS + d) = noiseFloorSource l faultOffsetS := by
  rw [noiseFloorSource, healthyGaps_later h, noiseFloorSource]

lemma attribution_later : attribution l' (faultOffsetS + d) = attribution l faultOffsetS := by
  rw [attribution, healthyGaps_later h, postGaps_later h, attribution]

lemma attributable_later : attributable l' (faultOffsetS + d) = attributable l faultOffsetS := by
  rw [attributable, attribution_later h, attributable]

lemma qualifying_later : (qualifying l' (faultOffsetS + d)).map edges =
    ((qualifying l faultOffsetS).map edges).map (Prod.map (· + d) (· + d)) := by
  rw [map_edges_qualifying, map_edges_qualifying, noiseFloor_later h, spans_later h,
    List.filter_map]
  refine congrArg _ (List.filter_congr fun q _ => decide_eq_decide.mpr ?_)
  rw [span_later, Prod.map_snd, add_le_add_iff_right]

/-- The lengths of the gaps over the floor, and with them their number. -/
lemma qualifyingLengths_later : (qualifying l' (faultOffsetS + d)).map gapLength =
    (qualifying l faultOffsetS).map gapLength := by
  have hlength : ∀ m : List (ProbeAttempt × ProbeAttempt),
      m.map gapLength = (m.map edges).map span := fun m => by
    rw [List.map_map]
    rfl
  rw [hlength, hlength, qualifying_later h, List.map_map]
  exact List.map_congr_left fun q _ => span_later q

lemma rounded_lengths_later :
    (qualifying l' (faultOffsetS + d)).map (fun p => roundTo 6 (gapLength p)) =
      (qualifying l faultOffsetS).map fun p => roundTo 6 (gapLength p) := by
  have hlengths := congrArg (List.map (roundTo 6)) (qualifyingLengths_later h faultOffsetS)
  rw [List.map_map, List.map_map] at hlengths
  exact hlengths

lemma outage_later : (outage l' (faultOffsetS + d)).map edges =
    (outage l faultOffsetS).map fun p => Prod.map (· + d) (· + d) (edges p) := by
  rw [map_edges_outage, qualifying_later h, argmax_map span span_later, ← map_edges_outage,
    Option.map_map]
  rfl

end Quantities

/-! ### The verdict and the record -/

/-- The same verdict, with the times it names `d` later. -/
inductive Moved (d : ℚ) : Verdict → Verdict → Prop
  | tooFew : Moved d .tooFew .tooFew
  | stillOpen {a a' : ProbeAttempt} (openGap : ℚ)
      (edge : a'.completeOffsetS = a.completeOffsetS + d) :
      Moved d (.stillOpen a openGap) (.stillOpen a' openGap)
  | uncovered : Moved d .uncovered .uncovered
  | belowResolution : Moved d .belowResolution .belowResolution
  | measured {before after before' after' : ProbeAttempt}
      (opened : before'.completeOffsetS = before.completeOffsetS + d)
      (closed : after'.completeOffsetS = after.completeOffsetS + d) :
      Moved d (.measured before after) (.measured before' after')

section Record

variable {d : ℚ} {l l' : List ProbeAttempt} (h : Later d l l')
variable (faultOffsetS : ℚ) (observationEndS : Option ℚ)
include h

lemma verdict_later : Moved d (verdict l faultOffsetS observationEndS)
    (verdict l' (faultOffsetS + d) (observationEndS.map (· + d))) := by
  have hlength : (servedAttempts l').length = (servedAttempts l).length := by
    simpa [servedInOrder] using length_servedInOrder_later h
  rcases lt_or_ge (servedAttempts l).length 2 with few | two
  · rw [verdict_of_few few, verdict_of_few (hlength ▸ few)]
    exact .tooFew
  · obtain ⟨s, last, hs, hlast, hv⟩ := verdict_of_two_served faultOffsetS observationEndS two
    obtain ⟨s', last', hs', hlast', hv'⟩ :=
      verdict_of_two_served (faultOffsetS + d) (observationEndS.map (· + d)) (hlength ▸ two)
    have hedge : s'.completeOffsetS = s.completeOffsetS + d := by
      have hserved := congrArg List.getLast? h.served
      simpa only [List.getLast?_map, hs, hs', Option.map_some, Option.some.injEq] using hserved
    have hend : last' = last + d := by
      have hmax := h.last
      simpa only [hlast, hlast', Option.map_some, Option.some.injEq] using hmax
    have hout := outage_later h faultOffsetS
    rw [hv, hv', noiseFloor_later h, coverageTruncated_later h, hedge, hend,
      add_sub_add_right_eq_sub]
    simp only [add_le_add_iff_right]
    cases ho : outage l faultOffsetS with
    | none =>
      rw [ho, Option.map_none, Option.map_eq_none_iff] at hout
      rw [hout]
      simp only
      split_ifs
      · exact .stillOpen _ hedge
      · exact .uncovered
      · exact .belowResolution
    | some p =>
      rw [ho, Option.map_some, Option.map_eq_some_iff] at hout
      obtain ⟨p', hp', hedges⟩ := hout
      rw [hp']
      exact .measured (congrArg Prod.fst hedges) (congrArg Prod.snd hedges)

lemma base_later : base l' (faultOffsetS + d) (observationEndS.map (· + d)) =
    { base l faultOffsetS observationEndS with
      lastObservationOffsetS := rounded 6 ((lastOffset l).map (· + d))
      observationEndOffsetS := observationEndS.map (· + d) } := by
  simp only [base, resolution_later h, detectionLag_later h, nextAfter_later h,
    length_afterFault_later h, length_servedInOrder_later h, h.last, coverageGap_later h,
    coverageTruncated_later h]

omit h in
lemma gapLength_moved {before after before' after' : ProbeAttempt}
    (hopened : before'.completeOffsetS = before.completeOffsetS + d)
    (hclosed : after'.completeOffsetS = after.completeOffsetS + d) :
    gapLength (before', after') = gapLength (before, after) := by
  simp only [gapLength, hopened, hclosed, add_sub_add_right_eq_sub]

lemma measuredClaim_later {before after before' after' : ProbeAttempt}
    (hopened : before'.completeOffsetS = before.completeOffsetS + d)
    (hclosed : after'.completeOffsetS = after.completeOffsetS + d) :
    measuredClaim l' (faultOffsetS + d) before' after' =
      measuredClaim l faultOffsetS before after := by
  unfold measuredClaim
  rw [attributable_later h, attribution_later h, resolution_later h,
    gapLength_moved hopened hclosed, hopened, hclosed, add_sub_add_right_eq_sub,
    add_sub_add_right_eq_sub]

/-- **Moving the clock moves the edges only**, as far as the times alone decide. -/
lemma report_later {v v' : Verdict} (hv : Moved d v v') :
    withoutFlight (relative
      (report l' (faultOffsetS + d) (observationEndS.map (· + d)) v')) =
    withoutFlight (relative (report l faultOffsetS observationEndS v)) := by
  have hlengths := rounded_lengths_later h faultOffsetS
  have hcount := congrArg List.length (qualifyingLengths_later h faultOffsetS)
  simp only [List.length_map] at hcount
  cases hv with
  | tooFew => simp only [report, reportTooFew, base_later h, relative, withoutFlight]
  | stillOpen openGap edge =>
    simp only [report, reportStillOpen, floored, base_later h, noiseFloor_later h,
      noiseFloorSource_later h, relative, withoutFlight, Option.map_some, Option.map_none]
  | uncovered =>
    simp only [report, reportUncovered, floored, base_later h, noiseFloor_later h,
      noiseFloorSource_later h, relative, withoutFlight]
  | belowResolution =>
    simp only [report, reportBelowResolution, floored, base_later h, noiseFloor_later h,
      noiseFloorSource_later h, relative, withoutFlight]
  | measured opened closed =>
    simp only [report, reportMeasured, floored, base_later h, noiseFloor_later h,
      noiseFloorSource_later h, relative, withoutFlight, hlengths, hcount,
      gapLength_moved opened closed, attribution_later h, attributable_later h, opened, closed,
      add_sub_add_right_eq_sub, Option.map_some]

end Record

/-- **On the same clock the times fix the record**, but for the part of the outage for which
the closing write was in flight. -/
lemma report_same_times {l l' : List ProbeAttempt} (h : Later 0 l l') (faultOffsetS : ℚ)
    (observationEndS : Option ℚ) {v v' : Verdict} (hv : Moved 0 v v') :
    withoutFlight (report l' faultOffsetS observationEndS v') =
      withoutFlight (report l faultOffsetS observationEndS v) := by
  have hbase : base l' faultOffsetS observationEndS = base l faultOffsetS observationEndS := by
    have hmoved := base_later h faultOffsetS observationEndS
    simp only [add_zero, Option.map_id'] at hmoved
    exact hmoved
  have hfloor := noiseFloor_later h faultOffsetS
  have hsource := noiseFloorSource_later h faultOffsetS
  have hresolution := resolution_later h faultOffsetS
  have hlast := h.last
  have hgap := coverageGap_later h observationEndS
  simp only [add_zero, Option.map_id'] at hfloor hsource hresolution hlast hgap
  cases hv with
  | tooFew => simp only [report, reportTooFew, hbase, withoutFlight]
  | stillOpen openGap edge =>
    simp only [report, reportStillOpen, floored, hbase, hfloor, hsource, edge, add_zero,
      withoutFlight]
  | uncovered =>
    simp only [report, reportUncovered, floored, hbase, hfloor, hsource, hlast, hgap,
      withoutFlight]
  | belowResolution =>
    simp only [report, reportBelowResolution, floored, hbase, hfloor, hsource, hresolution,
      withoutFlight]
  | measured opened closed =>
    have hclaim := measuredClaim_later h faultOffsetS opened closed
    have hpair := gapLength_moved opened closed
    have hlengths := rounded_lengths_later h faultOffsetS
    have hcount := congrArg List.length (qualifyingLengths_later h faultOffsetS)
    have hattribution := attribution_later h faultOffsetS
    have hattributable := attributable_later h faultOffsetS
    simp only [add_zero, List.length_map] at opened closed hclaim hlengths hcount
    simp only [add_zero] at hattribution hattributable
    simp only [report, reportMeasured, floored, hbase, hfloor, hsource, hlengths, hcount,
      hattribution, hattributable, hclaim, hpair, opened, closed, withoutFlight]

/-! ### Order -/

variable {attempts : List ProbeAttempt} {faultOffsetS : ℚ} {observationEndS : Option ℚ}

lemma withoutFlight_of_perm {reordered : List ProbeAttempt} (h : reordered.Perm attempts) :
    withoutFlight (measureRto reordered faultOffsetS observationEndS) =
      withoutFlight (measureRto attempts faultOffsetS observationEndS) := by
  have hverdict := verdict_later (later_perm h) faultOffsetS observationEndS
  simp only [add_zero, Option.map_id'] at hverdict
  exact report_same_times (later_perm h) faultOffsetS observationEndS hverdict

lemma eq_of_withoutFlight {r r' : RtoResult} (h : withoutFlight r = withoutFlight r')
    (hflag : r.closedByInFlightWrite = r'.closedByInFlightWrite)
    (hfraction : r.inFlightFraction = r'.inFlightFraction) : r = r' := by
  cases r
  cases r'
  simp only at hflag hfraction
  simp only [withoutFlight, RtoResult.mk.injEq] at h ⊢
  tauto

/-- The flag and the fraction are missing unless an outage is reported. -/
lemma flight_of_no_outage (h : outage attempts faultOffsetS = none) :
    (measureRto attempts faultOffsetS observationEndS).closedByInFlightWrite = none ∧
      (measureRto attempts faultOffsetS observationEndS).inFlightFraction = none := by
  unfold measureRto
  cases hv : verdict attempts faultOffsetS observationEndS with
  | measured before after => exact absurd hv (verdict_ne_measured h before after)
  | tooFew => exact ⟨rfl, rfl⟩
  | stillOpen _ _ => exact ⟨rfl, rfl⟩
  | uncovered => exact ⟨rfl, rfl⟩
  | belowResolution => exact ⟨rfl, rfl⟩

variable (faultOffsetS) in
/-- The outage of the same attempts in another order has the same edges. -/
lemma edges_outage_of_perm {reordered : List ProbeAttempt} (h : reordered.Perm attempts) :
    (outage reordered faultOffsetS).map edges = (outage attempts faultOffsetS).map edges := by
  have hmoved := outage_later (later_perm h) faultOffsetS
  simpa using hmoved

lemma inFlightFraction_opened {before before' after : ProbeAttempt}
    (h : before'.completeOffsetS = before.completeOffsetS) :
    inFlightFraction before' after = inFlightFraction before after := by
  have hlength : gapLength (before', after) = gapLength (before, after) := by
    simp only [gapLength, h]
  unfold inFlightFraction
  rw [hlength, h]

/-- The write that ends the outage is the first in the list of those that complete with it. -/
lemma head?_closing {p : ProbeAttempt × ProbeAttempt} (h : outage attempts faultOffsetS = some p) :
    ((servedAttempts attempts).filter fun a =>
      a.completeOffsetS = p.2.completeOffsetS).head? = some p.2 := by
  obtain ⟨hmem, hqualifies, -⟩ := outage_eq_some h
  have hlt : p.1.completeOffsetS < p.2.completeOffsetS := sub_pos.mp (gapLength_pos hqualifies)
  rw [← filter_key_sortOn ProbeAttempt.completeOffsetS]
  exact head?_filter_key _ (servedInOrder_ordered attempts) hmem hlt

/-- Where simultaneous writes are alike, the flag and the fraction are those of any order. -/
lemma flight_of_perm (halike : SimultaneousAlike attempts faultOffsetS)
    {reordered : List ProbeAttempt} (hperm : reordered.Perm attempts) :
    (measureRto reordered faultOffsetS observationEndS).closedByInFlightWrite =
        (measureRto attempts faultOffsetS observationEndS).closedByInFlightWrite ∧
      (measureRto reordered faultOffsetS observationEndS).inFlightFraction =
        (measureRto attempts faultOffsetS observationEndS).inFlightFraction := by
  have hsame := edges_outage_of_perm faultOffsetS hperm
  cases hp : outage attempts faultOffsetS with
  | none =>
    rw [hp, Option.map_none, Option.map_eq_none_iff] at hsame
    simp only [flight_of_no_outage hp, flight_of_no_outage hsame, and_self]
  | some p =>
    rw [hp, Option.map_some, Option.map_eq_some_iff] at hsame
    obtain ⟨p', hp', hedges⟩ := hsame
    obtain ⟨hopened, hclosed⟩ := Prod.mk.inj hedges
    have hmem := mem_servedInOrder.mp (mem_of_mem_consecutive (outage_eq_some hp').1).2
    obtain ⟨hfraction, hflag⟩ := halike p hp p'.2 (hperm.mem_iff.mp hmem.1) hmem.2 hclosed
    rw [measureRto_of_outage hp, measureRto_of_outage hp']
    simp only [reportMeasured, Option.some.injEq, decide_eq_decide,
      inFlightFraction_opened hopened]
    exact ⟨hflag, hfraction⟩

/-- **Order-free**: any order gives the same record exactly if the writes that complete when
the outage ends were in flight for the same part of it. -/
lemma orderFree_iff :
    OrderFree attempts faultOffsetS observationEndS ↔
      SimultaneousAlike attempts faultOffsetS := by
  constructor
  · intro hfree p hp a ha hserved hcomplete
    -- put the write first in the list, and it is the one that ends the outage
    have hperm : (a :: attempts.erase a).Perm attempts := (List.perm_cons_erase ha).symm
    obtain ⟨p', hp', hedges⟩ : ∃ p', outage (a :: attempts.erase a) faultOffsetS = some p' ∧
        edges p' = edges p := by
      have hsame := edges_outage_of_perm faultOffsetS hperm
      rwa [hp, Option.map_some, Option.map_eq_some_iff] at hsame
    obtain ⟨hopened, hclosed⟩ := Prod.mk.inj hedges
    have hclosing : p'.2 = a := by
      have hhead := head?_closing hp'
      simp only [servedAttempts, List.filter_cons_of_pos hserved] at hhead
      rw [List.filter_cons_of_pos (by simpa [hclosed] using hcomplete)] at hhead
      exact (Option.some.inj hhead).symm
    have hrecord := hfree _ hperm
    rw [measureRto_of_outage hp, measureRto_of_outage hp', hclosing] at hrecord
    have hfraction := congrArg RtoResult.inFlightFraction hrecord
    have hflag := congrArg RtoResult.closedByInFlightWrite hrecord
    simp only [reportMeasured, Option.some.injEq, decide_eq_decide,
      inFlightFraction_opened hopened] at hfraction hflag
    exact ⟨hfraction, hflag⟩
  · intro halike reordered hperm
    obtain ⟨hflag, hfraction⟩ := flight_of_perm halike hperm
    exact eq_of_withoutFlight (withoutFlight_of_perm hperm) hflag hfraction

/-! ### Translation -/

lemma servedAttempts_shift (d : ℚ) (l : List ProbeAttempt) :
    servedAttempts (l.map (shift d)) = (servedAttempts l).map (shift d) := by
  rw [servedAttempts, List.filter_map]
  rfl

/-- On the clock that is ahead the outage is that of the same write. -/
lemma outage_shift {d : ℚ} {p : ProbeAttempt × ProbeAttempt}
    (h : outage attempts faultOffsetS = some p) :
    ∃ before, outage (attempts.map (shift d)) (faultOffsetS + d) = some (before, shift d p.2) ∧
      before.completeOffsetS = p.1.completeOffsetS + d := by
  have hsame := outage_later (later_shift d attempts) faultOffsetS
  rw [h, Option.map_some, Option.map_eq_some_iff] at hsame
  obtain ⟨p', hp', hedges⟩ := hsame
  have hclosed : p'.2.completeOffsetS = p.2.completeOffsetS + d := congrArg Prod.snd hedges
  have hhead := head?_closing hp'
  have hkeep : ((fun a : ProbeAttempt => decide (a.completeOffsetS = p'.2.completeOffsetS)) ∘
      shift d) = fun a => decide (a.completeOffsetS = p.2.completeOffsetS) :=
    funext fun a => by simp [shift, hclosed]
  rw [servedAttempts_shift, List.filter_map, hkeep, List.head?_map, head?_closing h] at hhead
  have hclosing : shift d p.2 = p'.2 := Option.some.inj hhead
  exact ⟨p'.1, by rw [hp', hclosing], congrArg Prod.fst hedges⟩

lemma inFlightFraction_shift {d : ℚ} {before before' after : ProbeAttempt}
    (h : before'.completeOffsetS = before.completeOffsetS + d) :
    inFlightFraction before' (shift d after) = inFlightFraction before after := by
  have hlength : gapLength (before', shift d after) = gapLength (before, after) :=
    gapLength_moved h rfl
  unfold inFlightFraction
  rw [hlength, h]
  simp only [shift, max_add_add_right, add_sub_add_right_eq_sub]

/-- The flag and the fraction are those of the clock that is not ahead. -/
lemma flight_shift (d : ℚ) :
    (measureRto (attempts.map (shift d)) (faultOffsetS + d)
        (observationEndS.map (· + d))).closedByInFlightWrite =
        (measureRto attempts faultOffsetS observationEndS).closedByInFlightWrite ∧
      (measureRto (attempts.map (shift d)) (faultOffsetS + d)
        (observationEndS.map (· + d))).inFlightFraction =
        (measureRto attempts faultOffsetS observationEndS).inFlightFraction := by
  cases hp : outage attempts faultOffsetS with
  | none =>
    have hsame := outage_later (later_shift d attempts) faultOffsetS
    rw [hp, Option.map_none, Option.map_eq_none_iff] at hsame
    simp only [flight_of_no_outage hp, flight_of_no_outage hsame, and_self]
  | some p =>
    obtain ⟨before, hshifted, hopened⟩ := outage_shift (d := d) hp
    rw [measureRto_of_outage hp, measureRto_of_outage hshifted]
    simp only [reportMeasured, inFlightFraction_shift hopened, and_self]

/-- **Translation**: all that is relative stays. -/
lemma relative_shift (d : ℚ) :
    relative (measureRto (attempts.map (shift d)) (faultOffsetS + d)
      (observationEndS.map (· + d))) =
    relative (measureRto attempts faultOffsetS observationEndS) := by
  have hlater := later_shift d attempts
  have hrecord := report_later hlater faultOffsetS observationEndS
    (verdict_later hlater faultOffsetS observationEndS)
  obtain ⟨hflag, hfraction⟩ := flight_shift d
  exact eq_of_withoutFlight hrecord hflag hfraction

/-! ### Edges -/

lemma absoluteEdges_measureRto (attempts : List ProbeAttempt) (faultOffsetS : ℚ)
    (observationEndS : Option ℚ) :
    absoluteEdges (measureRto attempts faultOffsetS observationEndS) =
      (exactEdges attempts faultOffsetS observationEndS).map (roundTo 6) := by
  unfold exactEdges measureRto
  rw [List.map_append]
  have hlast : ∀ v, (report attempts faultOffsetS observationEndS v).lastObservationOffsetS =
      rounded 6 (lastOffset attempts) := fun v => by cases v <;> rfl
  have htoList : (rounded 6 (lastOffset attempts)).toList =
      (lastOffset attempts).toList.map (roundTo 6) := by
    cases lastOffset attempts <;> rfl
  rw [absoluteEdges, hlast, htoList, List.append_assoc]
  refine congrArg _ ?_
  cases verdict attempts faultOffsetS observationEndS <;> rfl

lemma exactEdges_shift (d : ℚ) :
    exactEdges (attempts.map (shift d)) (faultOffsetS + d) (observationEndS.map (· + d)) =
      (exactEdges attempts faultOffsetS observationEndS).map (· + d) := by
  have hlater := later_shift d attempts
  have hnamed : ∀ {v v' : Verdict}, Moved d v v' →
      (named v').map ProbeAttempt.completeOffsetS =
        ((named v).map ProbeAttempt.completeOffsetS).map (· + d) := by
    intro v v' hv
    cases hv with
    | stillOpen openGap edge => simp [named, edge]
    | measured opened closed => simp [named, opened, closed]
    | tooFew => rfl
    | uncovered => rfl
    | belowResolution => rfl
  have hlast : (lastOffset (attempts.map (shift d))).toList =
      (lastOffset attempts).toList.map (· + d) := by
    rw [hlater.last]
    cases lastOffset attempts <;> rfl
  rw [exactEdges, hlast, hnamed (verdict_later hlater faultOffsetS observationEndS), exactEdges,
    List.map_append]

lemma observationEnd_measureRto :
    (measureRto attempts faultOffsetS observationEndS).observationEndOffsetS =
      observationEndS := by
  unfold measureRto
  cases verdict attempts faultOffsetS observationEndS <;> rfl

/-- **Order and clock.** Any order of the attempts gives the same record, but for the part of
the outage for which the closing write was in flight, and that too exactly if the writes
that complete when the outage ends agree on it. A clock that is ahead moves the edges, before
they are rounded, and nothing else. -/
theorem order_and_clock (attempts : List ProbeAttempt) (faultOffsetS : ℚ)
    (observationEndS : Option ℚ) :
    (∀ reordered : List ProbeAttempt, reordered.Perm attempts →
      withoutFlight (measureRto reordered faultOffsetS observationEndS) =
        withoutFlight (measureRto attempts faultOffsetS observationEndS)) ∧
    (OrderFree attempts faultOffsetS observationEndS ↔
      SimultaneousAlike attempts faultOffsetS) ∧
    ∀ k : ℤ,
      let d : ℚ := k / 10 ^ 6
      let ahead := measureRto (attempts.map (shift d)) (faultOffsetS + d)
        (observationEndS.map (· + d))
      let here := measureRto attempts faultOffsetS observationEndS
      let unrounded := exactEdges attempts faultOffsetS observationEndS
      relative ahead = relative here ∧
      absoluteEdges here = unrounded.map (roundTo 6) ∧
      absoluteEdges ahead = unrounded.map (fun x => roundTo 6 (x + d)) ∧
      ahead.observationEndOffsetS = here.observationEndOffsetS.map (· + d) ∧
      (Even k ∨ (∀ x ∈ unrounded, ¬ Halfway x) →
        absoluteEdges ahead = (absoluteEdges here).map (· + d)) := by
  refine ⟨fun _ => withoutFlight_of_perm, orderFree_iff, fun k => ?_⟩
  intro d ahead here unrounded
  have hahead : absoluteEdges ahead = unrounded.map (fun x => roundTo 6 (x + d)) := by
    have hedges := absoluteEdges_measureRto (attempts.map (shift d)) (faultOffsetS + d)
      (observationEndS.map (· + d))
    rw [exactEdges_shift, List.map_map] at hedges
    exact hedges
  refine ⟨relative_shift d, absoluteEdges_measureRto _ _ _, hahead, ?_, fun hgrid => ?_⟩
  · rw [observationEnd_measureRto, observationEnd_measureRto]
  · rw [hahead, absoluteEdges_measureRto, List.map_map]
    refine List.map_congr_left fun x hx => roundTo_add_grid ?_
    rcases hgrid with heven | hall
    · exact Or.inr heven
    · exact Or.inl (hall x hx)

/-- Nine writes a tenth of a second apart, half a microsecond late, and two that complete
together: one that blocked and one that was dispatched just before. -/
def together : List ProbeAttempt :=
  ((List.range 9).map fun n : ℕ =>
    ⟨n, n / 10, (n + 1) / 10 + 1 / 2000000, "ok", 0, "", ""⟩) ++
    [⟨9, 1, 5, "ok", 0, "", ""⟩, ⟨10, 49 / 10, 5, "ok", 1, "", ""⟩]

/-- In the other order the outage is closed by a write that was hardly in flight, and a
microsecond on the clock moves the start of the outage by two. -/
theorem together_sensitive :
    together.reverse.Perm together ∧
    (measureRto together 1 none).inFlightFraction = some (9756 / 10000) ∧
    (measureRto together.reverse 1 none).inFlightFraction = some (244 / 10000) ∧
    ¬ OrderFree together 1 none ∧
    (measureRto together 1 none).outage.map Outage.startedS = some (9 / 10) ∧
    (measureRto (together.map (shift (1 / 10 ^ 6))) (1 + 1 / 10 ^ 6) none).outage.map
      Outage.startedS = some (9 / 10 + 2 / 10 ^ 6) := by
  have hhere : (measureRto together 1 none).inFlightFraction = some (9756 / 10000) := by
    decide +kernel
  have hthere : (measureRto together.reverse 1 none).inFlightFraction =
      some (244 / 10000) := by decide +kernel
  refine ⟨List.reverse_perm _, hhere, hthere, fun hfree => ?_, by decide +kernel,
    by decide +kernel⟩
  have hsame := congrArg RtoResult.inFlightFraction (hfree _ (List.reverse_perm _))
  rw [hhere, hthere] at hsame
  norm_num at hsame

end CrdbLab.RtoInvariance
