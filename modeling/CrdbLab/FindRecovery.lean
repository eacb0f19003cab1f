import CrdbLab.Lib.Double
import CrdbLab.Lib.KeySort
import Mathlib.Data.Rat.Defs
import Mathlib.Algebra.Order.Field.Rat
import Mathlib.Tactic.Linarith
import Mathlib.Tactic.NormNum

/-!
The first sustained recovery after a fault.

The search tries every sample from the fault on as the start of a window of `holdS` seconds
and breaks off when too little of the series remains. On a time-ordered series it finds the
earliest sample from which throughput holds, and nothing only when there is none.

All arithmetic is that of doubles. The end of a window is the rounded sum, which can lie beyond a
sample that is exactly `holdS` later, and a hold below the resolution of the times is lost in it.
-/

namespace CrdbLab.FindRecovery

open CrdbLab.Lib.Double CrdbLab.Lib.KeySort

/-- Total throughput at an offset. -/
structure Sample where
  offsetS : ℚ
  tps : ℚ
  deriving DecidableEq, Repr

/-- The slack with which the rest of the series may fall short of the hold: `1e-9`. -/
def tolerance : ℚ := double (1 / 10 ^ 9)

/-- Where the window that starts at an offset ends. -/
def windowEnd (holdS startS : ℚ) : ℚ := double (startS + holdS)

/-- The samples of the window that opens with the first one. -/
def window (holdS startS : ℚ) (samples : List Sample) : List Sample :=
  samples.filter fun s => s.offsetS < windowEnd holdS startS

/-- Too little of the series is left after a start, `lastS` being the offset of its last
sample. -/
def Short (holdS lastS startS : ℚ) : Prop := double (lastS - startS) < double (holdS - tolerance)

instance (holdS lastS startS : ℚ) : Decidable (Short holdS lastS startS) :=
  inferInstanceAs (Decidable (double (lastS - startS) < double (holdS - tolerance)))

/-- The loop over the samples after the fault. -/
def search (floor holdS lastS : ℚ) : List Sample → Option ℚ
  | [] => none
  | start :: rest =>
    let samples := window holdS start.offsetS (start :: rest)
    if samples = [] ∨ Short holdS lastS start.offsetS then none
    else if samples.all fun s => floor ≤ s.tps then some start.offsetS
    else search floor holdS lastS rest

def postFault (ticks : List Sample) (faultAtS : ℚ) : List Sample :=
  ticks.filter fun s => faultAtS ≤ s.offsetS

def findRecovery (ticks : List Sample) (faultAtS baselineTps threshold holdS : ℚ) : Option ℚ :=
  match (postFault ticks faultAtS).getLast? with
  | none => none
  | some last =>
    search (double ( (baselineTps * threshold))) holdS last.offsetS (postFault ticks faultAtS)

/-! ### Windows -/

lemma windowEnd_mono {holdS holdS' startS startS' : ℚ} (hhold : holdS ≤ holdS')
    (hstart : startS ≤ startS') : windowEnd holdS startS ≤ windowEnd holdS' startS' :=
  double_mono (add_le_add hstart hhold)

/-- Less is left after a later start. -/
lemma Short.mono {holdS holdS' lastS lastS' startS startS' : ℚ} (hhold : holdS ≤ holdS')
    (hlast : lastS' ≤ lastS) (hstart : startS ≤ startS') (h : Short holdS lastS startS) :
    Short holdS' lastS' startS' :=
  calc double (lastS' - startS') ≤ double (lastS - startS) := double_mono (sub_le_sub hlast hstart)
    _ < double (holdS - tolerance) := h
    _ ≤ double (holdS' - tolerance) := double_mono (sub_le_sub_right hhold _)

/-- The hold is not lost when it is added to the offset of a sample. -/
def Kept (holdS : ℚ) (s : Sample) : Prop := s.offsetS < windowEnd holdS s.offsetS

/-- No hold is lost that is not tiny beside the offset. -/
lemma kept_of_le {holdS : ℚ} {s : Sample} (hhold : smallest ≤ holdS)
    (h : |s.offsetS| ≤ 2 ^ 51 * holdS) : Kept holdS s := by
  have hpos := smallest_pos
  have herror := (abs_le.mp (abs_double_sub_le_rel (s.offsetS + holdS))).1
  have hsum : |s.offsetS + holdS| ≤ (2 ^ 51 + 1) * holdS :=
    calc |s.offsetS + holdS| ≤ |s.offsetS| + |holdS| := abs_add_le _ _
      _ = |s.offsetS| + holdS := by rw [abs_of_nonneg (by linarith : 0 ≤ holdS)]
      _ ≤ (2 ^ 51 + 1) * holdS := by linarith
  unfold Kept windowEnd
  linarith

/-- The window of a sample is empty when the hold is lost, and only then. -/
lemma window_ne_nil_iff {holdS : ℚ} {s : Sample} {rest : List Sample}
    (hord : Ordered Sample.offsetS (s :: rest)) :
    window holdS s.offsetS (s :: rest) ≠ [] ↔ Kept holdS s := by
  constructor
  · intro h
    obtain ⟨a, ha⟩ := List.exists_mem_of_ne_nil _ h
    obtain ⟨hmem, hlt⟩ := List.mem_filter.mp ha
    have hle : s.offsetS ≤ a.offsetS := by
      rcases List.mem_cons.mp hmem with rfl | hmem
      · exact le_refl _
      · exact (List.pairwise_cons.mp hord).1 a hmem
    exact hle.trans_lt (of_decide_eq_true hlt)
  · intro h
    exact List.ne_nil_of_mem (List.mem_filter.mpr ⟨List.mem_cons_self, decide_eq_true h⟩)

/-! ### The search -/

/-- Throughput holds from a sample on, `rest` being what the series lists after it. -/
def Holds (floor holdS lastS : ℚ) (start : Sample) (rest : List Sample) : Prop :=
  ¬ Short holdS lastS start.offsetS ∧
    ∀ s ∈ start :: rest, s.offsetS < windowEnd holdS start.offsetS → floor ≤ s.tps

/-- Some sample of the list at the given offset starts a window that holds, and the hold is lost
at no sample up to it. -/
def StartsAt (floor holdS lastS : ℚ) (samples : List Sample) (startS : ℚ) : Prop :=
  ∃ pre start rest, samples = pre ++ start :: rest ∧ start.offsetS = startS ∧
    (∀ s ∈ pre ++ [start], Kept holdS s) ∧ Holds floor holdS lastS start rest

variable {floor holdS lastS : ℚ}

lemma not_startsAt_nil (startS : ℚ) : ¬ StartsAt floor holdS lastS [] startS := by
  rintro ⟨pre, start, rest, h, -, -⟩
  simp at h

lemma startsAt_cons {s : Sample} {samples : List Sample} {startS : ℚ} :
    StartsAt floor holdS lastS (s :: samples) startS ↔
      Kept holdS s ∧ (s.offsetS = startS ∧ Holds floor holdS lastS s samples ∨
        StartsAt floor holdS lastS samples startS) := by
  refine ⟨?_, ?_⟩
  · rintro ⟨pre, start, rest, h, hs, hkept, hholds⟩
    rcases pre with _ | ⟨a, pre⟩
    · obtain ⟨rfl, rfl⟩ := List.cons.inj h
      exact ⟨hkept s (by simp), .inl ⟨hs, hholds⟩⟩
    · obtain ⟨rfl, rfl⟩ := List.cons.inj h
      refine ⟨hkept s (by simp), .inr ⟨pre, start, rest, rfl, hs, fun b hb => ?_, hholds⟩⟩
      exact hkept b (List.mem_cons_of_mem s hb)
  · rintro ⟨hkept, ⟨hs, hholds⟩ | ⟨pre, start, rest, rfl, hs, hall, hholds⟩⟩
    · exact ⟨[], s, samples, rfl, hs, by simpa using hkept, hholds⟩
    · refine ⟨s :: pre, start, rest, rfl, hs, fun b hb => ?_, hholds⟩
      rcases List.mem_cons.mp hb with rfl | hb
      · exact hkept
      · exact hall b hb

lemma startsAt_le {samples : List Sample} {startS : ℚ}
    (h : StartsAt floor holdS lastS samples startS) : ∃ s ∈ samples, s.offsetS = startS := by
  obtain ⟨pre, start, rest, rfl, hs, -⟩ := h
  exact ⟨start, by simp, hs⟩

/-- The test of the loop is that throughput holds. -/
lemma holds_iff {s : Sample} {rest : List Sample} : Holds floor holdS lastS s rest ↔
    ¬ Short holdS lastS s.offsetS ∧
      (window holdS s.offsetS (s :: rest)).all (fun s => floor ≤ s.tps) = true := by
  rw [Holds, window, List.all_filter, List.all_eq_true]
  refine and_congr_right fun _ => forall₂_congr fun a _ => ?_
  simp [imp_iff_not_or]

variable (floor lastS) in
/-- **The loop finds the earliest start.** Breaking off is safe, since what remains after
a later sample is shorter still. -/
theorem search_spec {samples : List Sample} (hord : Ordered Sample.offsetS samples) :
    (∀ startS, search floor holdS lastS samples = some startS →
        StartsAt floor holdS lastS samples startS ∧
          ∀ r, StartsAt floor holdS lastS samples r → startS ≤ r) ∧
      (search floor holdS lastS samples = none →
        ∀ r, ¬ StartsAt floor holdS lastS samples r) := by
  induction samples with
  | nil =>
    refine ⟨fun startS h => ?_, fun _ => not_startsAt_nil⟩
    simp [search] at h
  | cons s rest ih =>
    obtain ⟨hs, hrest⟩ := List.pairwise_cons.mp hord
    obtain ⟨ihsome, ihnone⟩ := ih hrest
    have hfirst : ∀ r, StartsAt floor holdS lastS (s :: rest) r → s.offsetS ≤ r := by
      intro r hr
      obtain ⟨a, ha, rfl⟩ := startsAt_le hr
      rcases List.mem_cons.mp ha with rfl | ha
      · exact le_refl _
      · exact hs a ha
    unfold search
    by_cases hlost : window holdS s.offsetS (s :: rest) = []
    · refine ⟨by simp [hlost], fun _ r hr => ?_⟩
      exact (window_ne_nil_iff hord).mpr (startsAt_cons.mp hr).1 hlost
    have hkept : Kept holdS s := (window_ne_nil_iff hord).mp hlost
    simp only [hlost, false_or]
    by_cases hshort : Short holdS lastS s.offsetS
    · refine ⟨by simp [hshort], fun _ r hr => ?_⟩
      have hle := hfirst r hr
      obtain ⟨-, start, -, -, rfl, -, hlong, -⟩ := hr
      exact hlong (hshort.mono le_rfl le_rfl hle)
    · by_cases hall : (window holdS s.offsetS (s :: rest)).all (fun s => floor ≤ s.tps) = true
      · refine ⟨fun startS h => ?_, by simp [hshort, hall]⟩
        have hstart : s.offsetS = startS := by simpa [hshort, hall] using h
        refine ⟨startsAt_cons.mpr ⟨hkept, .inl ⟨hstart, holds_iff.mpr ⟨hshort, hall⟩⟩⟩,
          fun r hr => ?_⟩
        exact hstart ▸ hfirst r hr
      · have hskip : ∀ r, StartsAt floor holdS lastS (s :: rest) r ↔
            StartsAt floor holdS lastS rest r := by
          intro r
          rw [startsAt_cons, and_iff_right hkept, or_iff_right]
          rintro ⟨-, hh⟩
          exact hall (holds_iff.mp hh).2
        simp only [hshort, hall, if_false, hskip]
        exact ⟨ihsome, ihnone⟩

/-! ### The series -/

/-- A start that is sustained: a tick at or after the fault with enough of the series after it,
from which on every tick before the end of the window is at or above the floor. The hold is lost
at no tick between the fault and it. -/
def Sustained (ticks : List Sample) (faultAtS floor holdS startS : ℚ) : Prop :=
  ∃ pre start rest, ticks = pre ++ start :: rest ∧ start.offsetS = startS ∧ faultAtS ≤ startS ∧
    (∀ s ∈ pre ++ [start], faultAtS ≤ s.offsetS → Kept holdS s) ∧
    (∀ last ∈ ticks.getLast?, ¬ Short holdS last.offsetS startS) ∧
    ∀ s ∈ start :: rest, startS ≤ s.offsetS → s.offsetS < windowEnd holdS startS → floor ≤ s.tps

variable {ticks : List Sample} {faultAtS : ℚ}

lemma getLast?_postFault (hord : Ordered Sample.offsetS ticks) (h : postFault ticks faultAtS ≠ []) :
    (postFault ticks faultAtS).getLast? = ticks.getLast? := by
  conv_rhs => rw [← ordered_split Sample.offsetS hord faultAtS]
  exact (List.getLast?_append_of_ne_nil _ h).symm

/-- The starts in the part after the fault are the sustained starts of the series. -/
lemma sustained_iff (hord : Ordered Sample.offsetS ticks) {last : Sample}
    (hlast : (postFault ticks faultAtS).getLast? = some last) {startS : ℚ} :
    Sustained ticks faultAtS floor holdS startS ↔
      StartsAt floor holdS last.offsetS (postFault ticks faultAtS) startS := by
  have hne : postFault ticks faultAtS ≠ [] := by
    intro h
    simp [h] at hlast
  have hsplit := ordered_split Sample.offsetS hord faultAtS
  have htail : ∀ {pre start rest}, ticks = pre ++ start :: rest →
      ∀ s ∈ start :: rest, start.offsetS ≤ s.offsetS := by
    rintro pre start rest rfl s hs
    have h := (List.pairwise_append.mp hord).2.1
    rcases List.mem_cons.mp hs with rfl | hs
    · exact le_refl _
    · exact (List.pairwise_cons.mp h).1 s hs
  refine ⟨?_, ?_⟩
  · rintro ⟨pre, start, rest, heq, rfl, hfault, hkept, hlong, hall⟩
    have hkeep : (start :: rest).filter (fun s => faultAtS ≤ s.offsetS) = start :: rest :=
      List.filter_eq_self.mpr fun s hs => by simpa using le_trans hfault (htail heq s hs)
    refine ⟨postFault pre faultAtS, start, rest, ?_, rfl, fun s hs => ?_, ?_, fun s hs hlt => ?_⟩
    · conv_lhs => rw [heq, postFault, List.filter_append, hkeep]
      rfl
    · rcases List.mem_append.mp hs with hs | hs
      · obtain ⟨hmem, hle⟩ := List.mem_filter.mp hs
        exact hkept s (List.mem_append_left _ hmem) (of_decide_eq_true hle)
      · rw [List.mem_singleton.mp hs]
        exact hkept start (by simp) hfault
    · exact hlong last (by rw [← getLast?_postFault hord hne, hlast]; rfl)
    · exact hall s hs (htail heq s hs) hlt
  · rintro ⟨pre, start, rest, heq, rfl, hkept, hlong, hall⟩
    have hmem : start ∈ postFault ticks faultAtS := by simp [heq]
    have hticks :
        ticks = (ticks.filter (fun s => s.offsetS < faultAtS) ++ pre) ++ start :: rest := by
      rw [List.append_assoc, ← heq]
      exact hsplit.symm
    refine ⟨_, start, rest, hticks, rfl, ?_, fun s hs hle => ?_, ?_,
      fun s hs _ hlt => hall s hs hlt⟩
    · simpa [postFault] using (List.mem_filter.mp hmem).2
    · rw [List.append_assoc] at hs
      rcases List.mem_append.mp hs with hs | hs
      · exact absurd (of_decide_eq_true (List.mem_filter.mp hs).2) (not_lt.mpr hle)
      · exact hkept s hs
    · intro z hz
      rw [← getLast?_postFault hord hne, hlast, Option.mem_some_iff] at hz
      exact hz ▸ hlong

variable (floor holdS) in
lemma not_sustained_of_postFault_nil (h : postFault ticks faultAtS = []) (startS : ℚ) :
    ¬ Sustained ticks faultAtS floor holdS startS := by
  rintro ⟨pre, start, rest, rfl, rfl, hfault, -⟩
  have hmem : start ∈ postFault (pre ++ start :: rest) faultAtS := by
    simp [postFault, hfault]
  rw [h] at hmem
  simp at hmem

section Spec

variable {baselineTps threshold : ℚ}

/-- What the search over the part after the fault finds. -/
lemma findRecovery_cases (hord : Ordered Sample.offsetS ticks) :
    (∀ startS, findRecovery ticks faultAtS baselineTps threshold holdS = some startS →
        Sustained ticks faultAtS (double (baselineTps * threshold)) holdS startS ∧
          ∀ r, Sustained ticks faultAtS (double (baselineTps * threshold)) holdS r → startS ≤ r) ∧
      (findRecovery ticks faultAtS baselineTps threshold holdS = none →
        ∀ r, ¬ Sustained ticks faultAtS (double (baselineTps * threshold)) holdS r) := by
  unfold findRecovery
  split
  · next hlast =>
    exact ⟨fun startS h => (nomatch h), fun _ => not_sustained_of_postFault_nil
      (double (baselineTps * threshold)) holdS (List.getLast?_eq_none_iff.mp hlast)⟩
  · next last hlast =>
    have hpost : Ordered Sample.offsetS (postFault ticks faultAtS) :=
      List.Pairwise.sublist List.filter_sublist hord
    simp only [sustained_iff hord hlast]
    exact search_spec (double (baselineTps * threshold)) last.offsetS hpost

lemma findRecovery_eq_some_iff (hord : Ordered Sample.offsetS ticks)
    {startS : ℚ} :
    findRecovery ticks faultAtS baselineTps threshold holdS = some startS ↔
      Sustained ticks faultAtS (double (baselineTps * threshold)) holdS startS ∧
        ∀ r, Sustained ticks faultAtS (double (baselineTps * threshold)) holdS r → startS ≤ r := by
  obtain ⟨hsome, hnone⟩ := @findRecovery_cases holdS ticks faultAtS baselineTps threshold hord
  refine ⟨hsome startS, fun ⟨hstart, hleast⟩ => ?_⟩
  cases hfound : findRecovery ticks faultAtS baselineTps threshold holdS with
  | none => exact absurd hstart (hnone hfound startS)
  | some r =>
    obtain ⟨hr, hmin⟩ := hsome r hfound
    rw [le_antisymm (hmin startS hstart) (hleast r hr)]

lemma findRecovery_eq_none_iff (hord : Ordered Sample.offsetS ticks) :
    findRecovery ticks faultAtS baselineTps threshold holdS = none ↔
      ∀ r, ¬ Sustained ticks faultAtS (double (baselineTps * threshold)) holdS r := by
  obtain ⟨hsome, hnone⟩ := @findRecovery_cases holdS ticks faultAtS baselineTps threshold hord
  refine ⟨hnone, fun h => ?_⟩
  cases hfound : findRecovery ticks faultAtS baselineTps threshold holdS with
  | none => rfl
  | some r => exact absurd (hsome r hfound).1 (h r)

end Spec

/-- **`findRecovery` is the start of the first sustained window**: it returns the earliest
sustained start, and nothing exactly when there is none. -/
theorem findRecovery_spec {baselineTps threshold : ℚ} (hord : Ordered Sample.offsetS ticks) :
    (∀ startS, findRecovery ticks faultAtS baselineTps threshold holdS = some startS ↔
        Sustained ticks faultAtS (double (baselineTps * threshold)) holdS startS ∧
          ∀ r, Sustained ticks faultAtS (double (baselineTps * threshold)) holdS r → startS ≤ r) ∧
      (findRecovery ticks faultAtS baselineTps threshold holdS = none ↔
        ∀ r, ¬ Sustained ticks faultAtS (double (baselineTps * threshold)) holdS r) := by
  refine ⟨fun startS => ?_, ?_⟩
  · exact findRecovery_eq_some_iff hord
  · exact findRecovery_eq_none_iff hord

/-- Throughput dips to a tenth from 2 s on and is back at 4 s. -/
def dip : List Sample := [⟨0, 100⟩, ⟨1, 100⟩, ⟨2, 10⟩, ⟨3, 10⟩, ⟨4, 90⟩, ⟨5, 90⟩, ⟨6, 90⟩]

theorem dip_recovers : Sustained dip (3 / 2) (double (100 * double (4 / 5))) 2 4 ∧
    ∀ r, Sustained dip (3 / 2) (double (100 * double (4 / 5))) 2 r → 4 ≤ r :=
  ((findRecovery_spec (List.pairwise_map.mp (by decide +kernel))).1 4).mp (by decide +kernel)

/-! ### Sums that are not rounded -/

/-- A start that is sustained in exact arithmetic. -/
def ExactlySustained (ticks : List Sample) (faultAtS floor holdS startS : ℚ) : Prop :=
  ∃ pre start rest, ticks = pre ++ start :: rest ∧ start.offsetS = startS ∧ faultAtS ≤ startS ∧
    (∀ last ∈ ticks.getLast?, holdS - 1 / 10 ^ 9 ≤ last.offsetS - startS) ∧
    ∀ s ∈ start :: rest, startS ≤ s.offsetS → s.offsetS < startS + holdS → floor ≤ s.tps

/-- Of two ticks, the first is a start exactly when the second is far enough from it and, inside
the window, not below the floor. -/
lemma exactlySustained_pair {a b : Sample} {faultAtS floor holdS : ℚ} (hlt : a.offsetS < b.offsetS)
    (hfault : faultAtS ≤ a.offsetS) (hfloor : floor ≤ a.tps) :
    ExactlySustained [a, b] faultAtS floor holdS a.offsetS ↔
      holdS - 1 / 10 ^ 9 ≤ b.offsetS - a.offsetS ∧
        (b.offsetS < a.offsetS + holdS → floor ≤ b.tps) := by
  constructor
  · rintro ⟨pre, start, rest, heq, hstart, -, hlong, hall⟩
    refine ⟨hlong b rfl, fun hin => ?_⟩
    have hb : b ∈ pre ++ start :: rest := heq ▸ by simp
    rcases List.mem_append.mp hb with hb | hb
    · obtain ⟨c, pre, rfl⟩ := List.exists_cons_of_ne_nil (List.ne_nil_of_mem hb)
      have htail : [b] = pre ++ start :: rest := (List.cons.inj heq).2
      have hmem : start ∈ [b] := htail ▸ by simp
      rw [List.mem_singleton.mp hmem] at hstart
      exact absurd hstart hlt.ne'
    · exact hall b hb hlt.le hin
  · rintro ⟨hlong, hb⟩
    refine ⟨[], a, [b], rfl, rfl, hfault, ?_, fun s hs _ hin => ?_⟩
    · rintro last ⟨⟩
      exact hlong
    · rcases List.mem_cons.mp hs with rfl | hs
      · exact hfloor
      · rw [List.mem_singleton.mp hs] at hin ⊢
        exact hb hin

/-- Two ticks whose offsets are read from decimals, the second without throughput. -/
def pair (x y : ℚ) : List Sample := [⟨double x, 100⟩, ⟨double y, 0⟩]

/-- The sum that ends the window is rounded. The tick at 10.1 s is before the exact end of the
window of 10 s from 0.1 s and not in it; the tick at 13.841 s is in the window from 3.841 s, which
it follows by 10 s in decimals; and a hold that is lost in the sum leaves an empty window. -/
theorem rounded_windows :
    findRecovery (pair (1 / 10) (101 / 10)) 0 100 (double (4 / 5)) 10 = some (double (1 / 10)) ∧
      ¬ ExactlySustained (pair (1 / 10) (101 / 10)) 0 (100 * double (4 / 5)) 10
        (double (1 / 10)) ∧
      findRecovery (pair (3841 / 1000) (13841 / 1000)) 0 100 (double (4 / 5)) 10 = none ∧
      ExactlySustained [⟨3841 / 1000, 100⟩, ⟨13841 / 1000, 0⟩] 0 (100 * (4 / 5)) 10
        (3841 / 1000) ∧
      findRecovery (pair 1 2) 0 100 (double (4 / 5)) (double (1 / 10 ^ 17)) = none ∧
      ExactlySustained (pair 1 2) 0 (100 * double (4 / 5)) (double (1 / 10 ^ 17)) (double 1) := by
  refine ⟨by decide +kernel, ?_, by decide +kernel, ?_, by decide +kernel, ?_⟩
  · rw [pair, exactlySustained_pair (by decide +kernel) (by decide +kernel) (by decide +kernel)]
    decide +kernel
  · rw [exactlySustained_pair (by norm_num) (by norm_num) (by norm_num)]
    norm_num
  · rw [pair, exactlySustained_pair (by decide +kernel) (by decide +kernel) (by decide +kernel)]
    decide +kernel

end CrdbLab.FindRecovery
