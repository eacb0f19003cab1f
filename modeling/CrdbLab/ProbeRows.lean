import CrdbLab.RtoInvariance

/-!
The recorded attempts of the probe, and what an analysis of the record finds.

The attempts are written as rows in completion order and rebuilt from them. Of an attempt
the analysis reads the two offsets and whether the write was served, and of their order only
that of completion, so that it finds in the record what it found in the run.
-/

namespace CrdbLab.ProbeRows

open CrdbLab.Lib.Rounding CrdbLab.Lib.KeySort CrdbLab.Lib.Consecutive CrdbLab.Lib.OrderStat
open CrdbLab.Optional CrdbLab.RtoProbe CrdbLab.MeasureRto
open CrdbLab.RtoInvariance (Later Moved noiseFloor_later coverageTruncated_later
  report_same_times eq_of_withoutFlight)

/-- One row of `rto_probe.csv`. -/
structure ProbeRow where
  tsUtc : String
  seqId : ℤ
  dispatchOffsetS : ℚ
  completeOffsetS : ℚ
  durationMs : ℚ
  outcome : String
  worker : ℤ
  detail : String
  deriving DecidableEq, Repr

def durationMs (a : ProbeAttempt) : ℚ := (a.completeOffsetS - a.dispatchOffsetS) * 1000

def toRow (a : ProbeAttempt) : ProbeRow where
  tsUtc := a.tsUtc
  seqId := a.seqId
  dispatchOffsetS := roundTo 6 a.dispatchOffsetS
  completeOffsetS := roundTo 6 a.completeOffsetS
  durationMs := roundTo 3 (durationMs a)
  outcome := a.outcome
  worker := a.worker
  detail := a.detail

def attemptsFromRows (rows : List ProbeRow) : List ProbeAttempt :=
  rows.map fun row =>
    { seqId := row.seqId
      dispatchOffsetS := row.dispatchOffsetS
      completeOffsetS := row.completeOffsetS
      outcome := row.outcome
      worker := row.worker
      detail := row.detail
      tsUtc := row.tsUtc }

/-- The rows a run writes: the attempts in completion order. -/
def recordedRows (attempts : List ProbeAttempt) : List ProbeRow :=
  (sortOn ProbeAttempt.completeOffsetS attempts).map toRow

/-! ### What the analysis reads -/

/-- What is read of one attempt. -/
def reading (a : ProbeAttempt) : ℚ × ℚ × Bool := (a.dispatchOffsetS, a.completeOffsetS, a.served)

/-- The attempts of one list are images of those of the other wherever the analysis looks. -/
structure Alike (f : ProbeAttempt → ProbeAttempt) (l l' : List ProbeAttempt) : Prop where
  served : servedInOrder l' = (servedInOrder l).map f
  failures : ∀ faultOffsetS, failuresAfter l' faultOffsetS = (failuresAfter l faultOffsetS).map f
  last : lastOffset l' = lastOffset l
  lastAttempt : (l'.argmax ProbeAttempt.completeOffsetS).map ProbeAttempt.completeOffsetS =
    (l.argmax ProbeAttempt.completeOffsetS).map ProbeAttempt.completeOffsetS

/-- The list in completion order. -/
lemma alike_sortOn (l : List ProbeAttempt) :
    Alike id l (sortOn ProbeAttempt.completeOffsetS l) where
  served := by
    simp only [servedInOrder, servedAttempts, sortOn_filter, sortOn_sortOn, List.map_id]
  failures faultOffsetS := by
    simp only [failuresAfter, sortOn_filter, sortOn_sortOn, List.map_id]
  last := max?_perm ((sortOn_perm _ l).map _)
  lastAttempt := argmax_perm _ (sortOn_perm _ l)

section Images

variable {f : ProbeAttempt → ProbeAttempt} (hf : ∀ a, reading (f a) = reading a)
include hf

lemma complete_image (a : ProbeAttempt) : (f a).completeOffsetS = a.completeOffsetS :=
  congrArg (fun r => r.2.1) (hf a)

lemma dispatch_image (a : ProbeAttempt) : (f a).dispatchOffsetS = a.dispatchOffsetS :=
  congrArg Prod.fst (hf a)

lemma served_image (a : ProbeAttempt) : (f a).served = a.served :=
  congrArg (fun r => r.2.2) (hf a)

/-- The list of the images. -/
lemma alike_map (l : List ProbeAttempt) : Alike f l (l.map f) where
  served := by
    have hfilter : servedAttempts (l.map f) = (servedAttempts l).map f := by
      unfold servedAttempts
      rw [List.filter_map]
      exact congrArg _ (List.filter_congr fun a _ => served_image hf a)
    rw [servedInOrder, hfilter, sortOn_map _ (complete_image hf), servedInOrder]
  failures faultOffsetS := by
    unfold failuresAfter
    rw [List.filter_map, sortOn_map _ (complete_image hf)]
    refine congrArg _ (congrArg _ (List.filter_congr fun a _ => ?_))
    simp only [Function.comp, served_image hf, complete_image hf]
  last := by
    unfold lastOffset
    rw [List.map_map]
    refine congrArg _ (List.map_congr_left fun a _ => complete_image hf a)
  lastAttempt := by
    rw [argmax_map _ (complete_image hf), Option.map_map]
    refine congrArg (fun g => Option.map g _) (funext fun a => complete_image hf a)

lemma gapLength_image (p : ProbeAttempt × ProbeAttempt) :
    gapLength (Prod.map f f p) = gapLength p := by
  simp [gapLength, complete_image hf]

lemma pairLength_image (before after : ProbeAttempt) :
    gapLength (f before, f after) = gapLength (before, after) :=
  gapLength_image hf (before, after)

variable {l l' : List ProbeAttempt} (h : Alike f l l')
include h

omit hf in
lemma gaps_image : gaps l' = (gaps l).map (Prod.map f f) := by
  rw [gaps, h.served, consecutive_map]
  rfl

/-- The images have the times of what they are images of. -/
lemma later_image : Later 0 l l' where
  served := by
    rw [h.served, List.map_map, List.map_map]
    exact List.map_congr_left fun a _ => by simp [complete_image hf]
  failures faultOffsetS := by
    rw [add_zero, h.failures, List.map_map, List.map_map]
    exact List.map_congr_left fun a _ => by simp [complete_image hf]
  last := by
    rw [h.last]
    simp

variable (faultOffsetS : ℚ) (observationEndS : Option ℚ)

lemma coverageTruncated_image : coverageTruncated l' faultOffsetS observationEndS =
    coverageTruncated l faultOffsetS observationEndS := by
  simpa only [add_zero, Option.map_id'] using
    coverageTruncated_later (later_image hf h) faultOffsetS observationEndS

lemma noiseFloor_image : noiseFloor l' faultOffsetS = noiseFloor l faultOffsetS := by
  simpa only [add_zero] using noiseFloor_later (later_image hf h) faultOffsetS

lemma qualifying_image :
    qualifying l' faultOffsetS = (qualifying l faultOffsetS).map (Prod.map f f) := by
  rw [qualifying, gaps_image h, List.filter_map, qualifying]
  refine congrArg _ (List.filter_congr fun p _ => decide_eq_decide.mpr ?_)
  simp only [Qualifies, Prod.map_snd, complete_image hf, noiseFloor_image hf h,
    gapLength_image hf]

lemma outage_image : outage l' faultOffsetS = (outage l faultOffsetS).map (Prod.map f f) := by
  rw [outage, qualifying_image hf h, argmax_map gapLength (gapLength_image hf), outage]

/-- A verdict about the images. -/
def imageVerdict (f : ProbeAttempt → ProbeAttempt) : Verdict → Verdict
  | .tooFew => .tooFew
  | .stillOpen lastServed openGap => .stillOpen (f lastServed) openGap
  | .uncovered => .uncovered
  | .belowResolution => .belowResolution
  | .measured before after => .measured (f before) (f after)

lemma verdict_image : verdict l' faultOffsetS observationEndS =
    imageVerdict f (verdict l faultOffsetS observationEndS) := by
  have hlast : (servedInOrder l').getLast? = ((servedInOrder l).getLast?).map f := by
    rw [h.served, List.getLast?_map]
  have hlength : (servedInOrder l').length = (servedInOrder l).length := by
    rw [h.served, List.length_map]
  have hattempt := h.lastAttempt
  unfold verdict
  rw [hlast, hlength, outage_image hf h, noiseFloor_image hf h, coverageTruncated_image hf h]
  cases (servedInOrder l).getLast? with
  | none => rfl
  | some lastServed =>
    cases hm : l.argmax ProbeAttempt.completeOffsetS with
    | none =>
      rw [hm, Option.map_none, Option.map_eq_none_iff] at hattempt
      rw [hattempt]
      rfl
    | some lastAttempt =>
      rw [hm, Option.map_some, Option.map_eq_some_iff] at hattempt
      obtain ⟨lastAttempt', hm', hsame⟩ := hattempt
      rw [hm']
      simp only [Option.map_some, complete_image hf, hsame]
      cases outage l faultOffsetS with
      | none =>
        simp only [Option.map_none]
        split_ifs <;> rfl
      | some p =>
        simp only [Option.map_some]
        split_ifs <;> rfl

omit h in
lemma inFlightFraction_image (before after : ProbeAttempt) :
    inFlightFraction (f before) (f after) = inFlightFraction before after := by
  unfold inFlightFraction
  rw [complete_image hf, complete_image hf, dispatch_image hf, pairLength_image hf]

omit h in
/-- A verdict about the images names the same times. -/
lemma moved_image (v : Verdict) : Moved 0 v (imageVerdict f v) := by
  cases v with
  | tooFew => exact .tooFew
  | stillOpen lastServed openGap => exact .stillOpen openGap (by simp [complete_image hf])
  | uncovered => exact .uncovered
  | belowResolution => exact .belowResolution
  | measured before after =>
    exact .measured (by simp [complete_image hf]) (by simp [complete_image hf])

lemma report_image (v : Verdict) : report l' faultOffsetS observationEndS (imageVerdict f v) =
    report l faultOffsetS observationEndS v := by
  refine eq_of_withoutFlight (report_same_times (later_image hf h) faultOffsetS observationEndS
    (moved_image hf v)) ?_ ?_
  · cases v with
    | measured before after =>
      simp only [imageVerdict, report, reportMeasured, inFlightFraction_image hf]
    | _ => rfl
  · cases v with
    | measured before after =>
      simp only [imageVerdict, report, reportMeasured, inFlightFraction_image hf]
    | _ => rfl

/-- **The analysis does not tell lists apart that are alike.** -/
lemma measureRto_image : measureRto l' faultOffsetS observationEndS =
    measureRto l faultOffsetS observationEndS := by
  rw [measureRto, verdict_image hf h, report_image hf h, measureRto]

end Images

/-! ### The record -/

/-- An attempt with nothing but what the analysis reads. -/
def core (a : ProbeAttempt) : ProbeAttempt where
  seqId := 0
  dispatchOffsetS := a.dispatchOffsetS
  completeOffsetS := a.completeOffsetS
  outcome := if a.served then "ok" else ""
  worker := 0

lemma reading_core (a : ProbeAttempt) : reading (core a) = reading a := by
  cases hs : a.served <;> simp_all [reading, core, ProbeAttempt.served]

/-- Lists that read alike entry by entry are the same to the analysis. -/
lemma measureRto_of_readings {l l' : List ProbeAttempt} (h : l'.map reading = l.map reading)
    (faultOffsetS : ℚ) (observationEndS : Option ℚ) :
    measureRto l' faultOffsetS observationEndS = measureRto l faultOffsetS observationEndS := by
  have hcore : ∀ m : List ProbeAttempt, m.map core = (m.map reading).map fun r =>
      { seqId := 0, dispatchOffsetS := r.1, completeOffsetS := r.2.1
        outcome := if r.2.2 then "ok" else "", worker := 0 } := by
    intro m
    rw [List.map_map]
    rfl
  rw [← measureRto_image reading_core (alike_map reading_core l'), hcore, h, ← hcore,
    measureRto_image reading_core (alike_map reading_core l)]

/-- A number of seconds with no more than six decimals. -/
def OnGrid (x : ℚ) : Prop := ∃ k : ℤ, x = k / 10 ^ 6

lemma roundTo_of_onGrid {x : ℚ} (h : OnGrid x) : roundTo 6 x = x := by
  obtain ⟨k, rfl⟩ := h
  exact roundTo_grid 6 k

/-- Writing the rows to a file and reading it back keeps the offsets, which have six decimals,
and tells `ok` from every other outcome. -/
def ReadsBack (readBack : List ProbeRow → List ProbeRow) : Prop :=
  ∀ rows, (readBack rows).map (fun r => (r.dispatchOffsetS, r.completeOffsetS, r.outcome == "ok")) =
    rows.map fun r => (r.dispatchOffsetS, r.completeOffsetS, r.outcome == "ok")

/-- The rebuilt attempts read as the run's own do in completion order. -/
lemma readings_of_recorded {readBack : List ProbeRow → List ProbeRow} (hread : ReadsBack readBack)
    {attempts : List ProbeAttempt}
    (hgrid : ∀ a ∈ attempts, OnGrid a.dispatchOffsetS ∧ OnGrid a.completeOffsetS) :
    (attemptsFromRows (readBack (recordedRows attempts))).map reading =
      (sortOn ProbeAttempt.completeOffsetS attempts).map reading := by
  have hrows : (attemptsFromRows (readBack (recordedRows attempts))).map reading =
      (readBack (recordedRows attempts)).map fun r =>
        (r.dispatchOffsetS, r.completeOffsetS, r.outcome == "ok") := by
    rw [attemptsFromRows, List.map_map]
    rfl
  rw [hrows, hread, recordedRows, List.map_map]
  refine List.map_congr_left fun a ha => ?_
  obtain ⟨hd, hc⟩ := hgrid a ((mem_sortOn _).mp ha)
  simp only [Function.comp, toRow, reading, roundTo_of_onGrid hd, roundTo_of_onGrid hc,
    ProbeAttempt.served]

/-- **The record gives the same RTO**: what the analysis finds in the rebuilt attempts is what
it found in the run's own. -/
theorem measureRto_of_recorded {readBack : List ProbeRow → List ProbeRow}
    (hread : ReadsBack readBack) {attempts : List ProbeAttempt}
    (hgrid : ∀ a ∈ attempts, OnGrid a.dispatchOffsetS ∧ OnGrid a.completeOffsetS)
    (faultOffsetS : ℚ) (observationEndS : Option ℚ) :
    measureRto (attemptsFromRows (readBack (recordedRows attempts))) faultOffsetS
        observationEndS =
      measureRto attempts faultOffsetS observationEndS := by
  rw [measureRto_of_readings (readings_of_recorded hread hgrid),
    measureRto_image (fun _ => rfl) (alike_sortOn attempts)]

/-- What reading does to a blank detail, which comes back as the text of a missing number. -/
def blankDetail (rows : List ProbeRow) : List ProbeRow :=
  rows.map fun r => if r.detail = "" then { r with detail := "nan" } else r

lemma readsBack_blankDetail : ReadsBack blankDetail := by
  intro rows
  rw [blankDetail, List.map_map]
  refine List.map_congr_left fun r _ => ?_
  simp only [Function.comp]
  split_ifs <;> rfl

/-- Two writes of different workers that complete at the same time, one of them late. -/
def tiedRun : List ProbeAttempt :=
  [⟨0, 0, 1 / 10, "ok", 0, "", "t"⟩, ⟨2, 2 / 10, 7 / 10, "timeout", 1, "canceled", "t"⟩,
    ⟨1, 1 / 10, 7 / 10, "ok", 0, "", "t"⟩, ⟨3, 3 / 10, 4 / 10, "ok", 1, "", "t"⟩]

/-- Its record gives the same RTO. -/
theorem tiedRun_recorded :
    measureRto (attemptsFromRows (blankDetail (recordedRows tiedRun))) (1 / 2) none =
      measureRto tiedRun (1 / 2) none := by
  refine measureRto_of_recorded readsBack_blankDetail (fun a ha => ?_) (1 / 2) none
  simp only [tiedRun, List.mem_cons, List.not_mem_nil, or_false] at ha
  rcases ha with rfl | rfl | rfl | rfl
  · exact ⟨⟨0, by norm_num⟩, 100000, by norm_num⟩
  · exact ⟨⟨200000, by norm_num⟩, 700000, by norm_num⟩
  · exact ⟨⟨100000, by norm_num⟩, 700000, by norm_num⟩
  · exact ⟨⟨300000, by norm_num⟩, 400000, by norm_num⟩

end CrdbLab.ProbeRows
