import CrdbLab.AvailabilityRto
import Mathlib.Data.Finset.Order
import Mathlib.Data.Finset.Dedup

/-!
What the detection floor of the audit writer depends on.

The longest healthy gap comes from the writes acknowledged before the fault, but the
typical gap added to it is the median of the whole run. Two runs that agree before the fault
share a floor only if their medians over the whole run agree, and every healthy period has a
continuation that moves the median.
-/

namespace CrdbLab.AuditFloor

open CrdbLab.Lib.Rounding CrdbLab.Lib.KeySort CrdbLab.Lib.Consecutive CrdbLab.Lib.OrderStat
open CrdbLab.Optional CrdbLab.AvailabilityRto

/-- Two time-ordered runs with the same writes acknowledged before the fault, at least two
of them a positive time apart, and a write acknowledged after it in each. -/
structure Comparable (attempts other : List Attempt) (faultMonotonic : ℚ) : Prop where
  ordered : Ordered Attempt.time attempts
  other_ordered : Ordered Attempt.time other
  same_before : before other faultMonotonic = before attempts faultMonotonic
  two : 2 ≤ (before attempts faultMonotonic).length
  positive : ∃ gap ∈ diffs (before attempts faultMonotonic), 0 < gap
  after_ne : after attempts faultMonotonic ≠ []
  other_after_ne : after other faultMonotonic ≠ []

instance (attempts other : List Attempt) (faultMonotonic : ℚ) :
    Decidable (Comparable attempts other faultMonotonic) :=
  decidable_of_iff
    ((attempts.map Attempt.time).Pairwise (· ≤ ·) ∧ (other.map Attempt.time).Pairwise (· ≤ ·) ∧
      before other faultMonotonic = before attempts faultMonotonic ∧
      2 ≤ (before attempts faultMonotonic).length ∧
      (∃ gap ∈ diffs (before attempts faultMonotonic), 0 < gap) ∧
      after attempts faultMonotonic ≠ [] ∧ after other faultMonotonic ≠ [])
    ⟨fun ⟨h1, h2, h3, h4, h5, h6, h7⟩ =>
      ⟨List.pairwise_map.mp h1, List.pairwise_map.mp h2, h3, h4, h5, h6, h7⟩,
      fun ⟨h1, h2, h3, h4, h5, h6, h7⟩ =>
      ⟨List.pairwise_map.mpr h1, List.pairwise_map.mpr h2, h3, h4, h5, h6, h7⟩⟩

/-- Two whole-run medians lead to one reported floor over the same longest healthy gap. -/
def MediansAgree (longest typical other : ℚ) : Prop :=
  typical = 0 ∧ other = 0 ∨
    typical ≠ 0 ∧ other ≠ 0 ∧ roundTo 4 (longest + typical) = roundTo 4 (longest + other)

variable {attempts other : List Attempt} {faultMonotonic : ℚ}

lemma acked_ordered (h : Ordered Attempt.time attempts) : (acked attempts).Pairwise (· ≤ ·) :=
  List.pairwise_map.mpr (List.Pairwise.sublist List.filter_sublist h)

/-- The healthy gaps are those of the writes acknowledged before the fault. -/
lemma healthy_eq (h : Ordered Attempt.time attempts) :
    healthy attempts faultMonotonic = diffs (before attempts faultMonotonic) := by
  unfold healthy before diffs
  exact congrArg _ (consecutive_filter_lt id (acked_ordered h) faultMonotonic)

lemma typicalGap_eq_some (h : 2 ≤ (before attempts faultMonotonic).length) :
    ∃ typical, typicalGap attempts = some typical := by
  have hle : (before attempts faultMonotonic).length ≤ (acked attempts).length :=
    List.length_filter_le _ _
  have hlen : (gaps attempts).length = (acked attempts).length - 1 := length_diffs _
  refine ⟨_, List.getElem?_eq_getElem ?_⟩
  rw [length_sortOn]
  omega

lemma floor_eq {longest typical : ℚ}
    (hlongest : (healthy attempts faultMonotonic).max? = some longest)
    (htypical : typicalGap attempts = some typical) :
    floor attempts faultMonotonic = if typical ≠ 0 then some (longest + typical) else none := by
  unfold floor
  rw [hlongest, htypical]

lemma floors_agree_iff {longest typical other : ℚ} :
    rounded 4 (if typical ≠ 0 then some (longest + typical) else none) =
        rounded 4 (if other ≠ 0 then some (longest + other) else none) ↔
      MediansAgree longest typical other := by
  unfold MediansAgree
  by_cases h : typical = 0 <;> by_cases h' : other = 0 <;> simp [h, h']

/-! ### A continuation that moves the median -/

/-- Acknowledged writes at the given times. -/
def ackedAt (times : List ℚ) : List Attempt := times.map fun t => ⟨t, 0, "ack"⟩

@[simp] lemma acked_ackedAt (times : List ℚ) : acked (ackedAt times) = times := by
  unfold acked ackedAt
  rw [List.filter_map, List.map_map, List.filter_eq_self.mpr (by simp)]
  simp [Function.comp_def]

/-- The writes acknowledged before the fault, and then `k + 1` from the fault on, `d` apart. -/
def continued (attempts : List Attempt) (faultMonotonic d : ℚ) (k : ℕ) : List Attempt :=
  ackedAt (before attempts faultMonotonic ++ steps faultMonotonic d k)

lemma before_lt : ∀ t ∈ before attempts faultMonotonic, t < faultMonotonic := by
  intro t ht
  simpa using (List.mem_filter.mp ht).2

lemma before_continued {d : ℚ} (hd : 0 ≤ d) (k : ℕ) :
    before (continued attempts faultMonotonic d k) faultMonotonic =
      before attempts faultMonotonic := by
  have hnil : (steps faultMonotonic d k).filter (fun t => t < faultMonotonic) = [] :=
    List.filter_eq_nil_iff.mpr fun t ht => by simpa using le_of_mem_steps hd ht
  have hself : (before attempts faultMonotonic).filter (fun t => t < faultMonotonic) =
      before attempts faultMonotonic :=
    List.filter_eq_self.mpr fun t ht => by simpa using before_lt t ht
  rw [before, continued, acked_ackedAt, List.filter_append, hnil, hself, List.append_nil]

lemma continued_ordered (h : Ordered Attempt.time attempts) {d : ℚ} (hd : 0 ≤ d) (k : ℕ) :
    Ordered Attempt.time (continued attempts faultMonotonic d k) := by
  refine List.pairwise_map.mpr (append_steps_ordered ?_ (fun t ht => (before_lt t ht).le) hd k)
  exact List.Pairwise.sublist List.filter_sublist (acked_ordered h)

lemma after_continued_ne (d : ℚ) (k : ℕ) :
    after (continued attempts faultMonotonic d k) faultMonotonic ≠ [] := by
  obtain ⟨t, ht⟩ := steps_eq_cons faultMonotonic d k
  apply List.ne_nil_of_mem (a := faultMonotonic)
  rw [mem_after, continued, acked_ackedAt, ht]
  simp

lemma comparable_continued (h : Comparable attempts attempts faultMonotonic) {d : ℚ} (hd : 0 ≤ d)
    (k : ℕ) : Comparable attempts (continued attempts faultMonotonic d k) faultMonotonic where
  ordered := h.ordered
  other_ordered := continued_ordered h.ordered hd k
  same_before := before_continued hd k
  two := h.two
  positive := h.positive
  after_ne := h.after_ne
  other_after_ne := after_continued_ne d k

/-- Enough steps of a width over every other gap make it the median. -/
lemma typicalGap_continued (hne : before attempts faultMonotonic ≠ []) (bound : ℚ) :
    ∃ d k, bound ≤ d ∧ typicalGap (continued attempts faultMonotonic d k) = some d := by
  obtain ⟨bridge, hgaps⟩ := diffs_append_steps hne faultMonotonic
  set own := diffs (before attempts faultMonotonic) ++ [bridge] with hown
  obtain ⟨d, hd⟩ := (bound :: own).toFinset.exists_le
  have hle : ∀ x ∈ own, x ≤ d := fun x hx => hd x (by simp [hx])
  refine ⟨d, own.length, hd bound (by simp), ?_⟩
  have hall : gaps (continued attempts faultMonotonic d own.length) =
      own ++ List.replicate own.length d := by
    rw [gaps, continued, acked_ackedAt, hgaps]
  have hlen : (own ++ List.replicate own.length d).length = own.length + own.length := by simp
  have hpos : 0 < own.length := by simp [hown]
  rw [typicalGap, hall, hlen]
  exact getElem?_sorted_append_replicate hle (by omega) (by omega)

lemma Comparable.refl (h : Comparable attempts other faultMonotonic) :
    Comparable attempts attempts faultMonotonic :=
  ⟨h.ordered, h.ordered, rfl, h.two, h.positive, h.after_ne, h.after_ne⟩

/-- The reported floor of one of two comparable runs. -/
lemma detectionFloorS_of_comparable (h : Comparable attempts other faultMonotonic)
    {longest typical : ℚ} (hlongest : (diffs (before attempts faultMonotonic)).max? = some longest)
    (htypical : typicalGap other = some typical) (endS : Option ℚ) :
    (availabilityRto other faultMonotonic endS).detectionFloorS =
      rounded 4 (if typical ≠ 0 then some (longest + typical) else none) := by
  have hother : (healthy other faultMonotonic).max? = some longest := by
    rw [healthy_eq h.other_ordered, h.same_before, hlongest]
  rw [detectionFloorS_eq h.other_after_ne, floor_eq hother htypical]

/-- **The floor is not a property of the healthy period.** Two comparable runs report one
floor exactly when their medians over the whole run agree, and for every run there is a
comparable one that reports another. -/
theorem detectionFloor_iff {endS endS' : Option ℚ} (h : Comparable attempts other faultMonotonic) :
    (∃ longest typical typical',
        (diffs (before attempts faultMonotonic)).max? = some longest ∧
        typicalGap attempts = some typical ∧ typicalGap other = some typical' ∧
        ((availabilityRto attempts faultMonotonic endS).detectionFloorS =
            (availabilityRto other faultMonotonic endS').detectionFloorS ↔
          MediansAgree longest typical typical')) ∧
      ∃ another, Comparable attempts another faultMonotonic ∧
        ∀ endS'', (availabilityRto attempts faultMonotonic endS).detectionFloorS ≠
          (availabilityRto another faultMonotonic endS'').detectionFloorS := by
  obtain ⟨longest, hl⟩ : ∃ longest,
      (diffs (before attempts faultMonotonic)).max? = some longest := by
    obtain ⟨gap, hgap, -⟩ := h.positive
    refine Option.ne_none_iff_exists'.mp fun hnone => ?_
    rw [List.max?_eq_none_iff] at hnone
    simp [hnone] at hgap
  obtain ⟨typical, ht⟩ := typicalGap_eq_some h.two
  obtain ⟨typical', ht'⟩ := typicalGap_eq_some (h.same_before ▸ h.two)
  have hfloor := detectionFloorS_of_comparable h.refl hl ht endS
  refine ⟨⟨longest, typical, typical', hl, ht, ht', ?_⟩, ?_⟩
  · rw [hfloor, detectionFloorS_of_comparable h hl ht', floors_agree_iff]
  · have hne : before attempts faultMonotonic ≠ [] := by
      intro hnil
      have := h.two
      simp [hnil] at this
    -- one second over the median of the run, which four decimals keep apart
    obtain ⟨d, k, hd, hmedian⟩ := typicalGap_continued hne (max 1 (typical + 1))
    have hd1 : 1 ≤ d := le_trans (le_max_left _ _) hd
    have hdt : typical + 1 ≤ d := le_trans (le_max_right _ _) hd
    have hcomp := comparable_continued h.refl (d := d) (by linarith) k
    refine ⟨_, hcomp, fun endS'' => ?_⟩
    rw [hfloor, detectionFloorS_of_comparable hcomp hl hmedian, ne_eq, floors_agree_iff]
    rintro (⟨-, hzero⟩ | ⟨-, -, hround⟩)
    · linarith
    · have hlt : roundTo 4 (longest + typical) < roundTo 4 (longest + d) := by
        refine roundTo_lt_roundTo ?_
        norm_num
        linarith
      exact absurd hround hlt.ne

/-- Three writes a tenth of a second apart, and two more at the same cadence. -/
def steadyRun : List Attempt := ackedAt [0, 1 / 10, 1 / 5, 3 / 10, 2 / 5]

/-- The same three writes, and then one every five seconds. -/
def slowedRun : List Attempt := ackedAt [0, 1 / 10, 1 / 5, 5, 10, 15, 20]

theorem steady_slowed_floors :
    (∃ longest typical typical', (diffs (before steadyRun (1 / 4))).max? = some longest ∧
        typicalGap steadyRun = some typical ∧ typicalGap slowedRun = some typical' ∧
        ((availabilityRto steadyRun (1 / 4) none).detectionFloorS =
            (availabilityRto slowedRun (1 / 4) none).detectionFloorS ↔
          MediansAgree longest typical typical')) ∧
      ∃ another, Comparable steadyRun another (1 / 4) ∧
        ∀ endS, (availabilityRto steadyRun (1 / 4) none).detectionFloorS ≠
          (availabilityRto another (1 / 4) endS).detectionFloorS :=
  detectionFloor_iff (by decide +kernel)

/-- What follows the fault raises the floor from 0.2 s to 5.1 s. -/
theorem steady_slowed_floor_moved : Comparable steadyRun slowedRun (1 / 4) ∧
    (availabilityRto steadyRun (1 / 4) none).detectionFloorS = some (1 / 5) ∧
    (availabilityRto slowedRun (1 / 4) none).detectionFloorS = some (51 / 10) := by
  decide +kernel

end CrdbLab.AuditFloor
