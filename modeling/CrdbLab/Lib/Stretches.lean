import CrdbLab.Lib.Consecutive
import Mathlib.Algebra.Order.Field.Basic
import Mathlib.Tactic.Linarith

/-!
A function that changes its value only behind finitely many break points.

Between two neighbouring points the function is constant, so what holds of the distance
from the argument to the value on a whole interval can be tested on finitely many
stretches. At the open end of a stretch the test takes the limit.
-/

namespace CrdbLab.Lib.Stretches

open CrdbLab.Lib.KeySort CrdbLab.Lib.Consecutive

variable {K β : Type*} [LinearOrder K]

/-- The value is the same on both sides of every interval that contains no break. -/
def ConstantBetween (breaks : List K) (f : K → β) : Prop :=
  ∀ x y, x ≤ y → (∀ t ∈ breaks, ¬ (x ≤ t ∧ t < y)) → f x = f y

/-- The ends of the stretches of `[lower, upper]`: the breaks inside and both ends. -/
def stretchEnds (breaks : List K) (lower upper : K) : List K :=
  sortOn id (breaks.filter fun t => lower < t ∧ t < upper) ++ [upper]

/-- The stretches, each of them open on the left. -/
def stretches (breaks : List K) (lower upper : K) : List (K × K) :=
  consecutive (lower :: stretchEnds breaks lower upper)

variable {breaks : List K} {lower upper : K}

lemma ends_ordered (hle : lower ≤ upper) :
    Ordered id (lower :: stretchEnds breaks lower upper) := by
  have hinside : ∀ t ∈ sortOn id (breaks.filter fun t => lower < t ∧ t < upper),
      lower < t ∧ t < upper := by
    intro t ht
    simpa using (List.mem_filter.mp ((mem_sortOn id).mp ht)).2
  refine List.pairwise_cons.mpr ⟨fun t ht => ?_, List.pairwise_append.mpr ⟨?_, ?_, ?_⟩⟩
  · rcases List.mem_append.mp ht with ht | ht
    · exact (hinside t ht).1.le
    · exact (List.mem_singleton.mp ht) ▸ hle
  · exact ordered_sortOn id _
  · exact List.pairwise_singleton _ _
  · intro t ht b hb
    exact (List.mem_singleton.mp hb) ▸ (hinside t ht).2.le

/-- A stretch lies in the interval and has no break inside. -/
lemma stretch_spec (hle : lower ≤ upper) {p : K × K} (hp : p ∈ stretches breaks lower upper) :
    lower ≤ p.1 ∧ p.1 ≤ p.2 ∧ p.2 ≤ upper ∧ ∀ t ∈ breaks, ¬ (p.1 < t ∧ t < p.2) := by
  have hord := @ends_ordered K _ breaks lower upper hle
  obtain ⟨h1, h2⟩ := mem_of_mem_consecutive hp
  have hlower : ∀ t ∈ lower :: stretchEnds breaks lower upper, lower ≤ t := by
    intro t ht
    rcases List.mem_cons.mp ht with rfl | ht
    · exact le_refl _
    · exact (List.pairwise_cons.mp hord).1 t ht
  have hupper : ∀ t ∈ lower :: stretchEnds breaks lower upper, t ≤ upper :=
    key_le_getLast id hord
      (by rw [stretchEnds, ← List.cons_append, List.getLast?_concat])
  refine ⟨hlower _ h1, key_le_of_mem_consecutive id hord hp, hupper _ h2, ?_⟩
  rintro t ht ⟨hlt1, hlt2⟩
  have hmem : t ∈ lower :: stretchEnds breaks lower upper := by
    refine List.mem_cons_of_mem _ (List.mem_append_left _ ((mem_sortOn id).mpr ?_))
    exact List.mem_filter.mpr ⟨ht, by
      simpa using ⟨lt_of_le_of_lt (hlower _ h1) hlt1, lt_of_lt_of_le hlt2 (hupper _ h2)⟩⟩
  rcases le_or_le_of_mem_consecutive id hord hp hmem with h | h
  · exact absurd h (not_le.mpr hlt1)
  · exact absurd h (not_le.mpr hlt2)

/-- On a stretch the function has the value of its right end. -/
lemma eq_right_end (hle : lower ≤ upper) {f : K → β} (hf : ConstantBetween breaks f) {p : K × K}
    (hp : p ∈ stretches breaks lower upper) {x : K} (h1 : p.1 < x) (h2 : x ≤ p.2) :
    f x = f p.2 := by
  obtain ⟨-, -, -, hnone⟩ := stretch_spec hle hp
  exact hf x p.2 h2 fun t ht hxt => hnone t ht ⟨lt_of_lt_of_le h1 hxt.1, hxt.2⟩

variable [Field K] [IsStrictOrderedRing K]

/-- A bound on the distance to every point of a stretch is a bound on the distance to its
left end. -/
lemma sub_left_le {a b s hi : K} (hab : a < b) (h : ∀ x, a < x → x ≤ b → s - x ≤ hi) :
    s - a ≤ hi := by
  by_contra hlt
  have hgap : a < s - hi := by linarith [not_le.mp hlt]
  obtain ⟨x, hax, hx⟩ := exists_between (lt_min hab hgap)
  have hle := h x hax (hx.le.trans (min_le_left _ _))
  have hlt' := hx.trans_le (min_le_right _ _)
  linarith

/-- **The test of a distance on an interval**: it suffices to look at the lower end and at
both ends of every stretch. -/
theorem forall_distance_iff (hle : lower ≤ upper) {f : K → Option K} (hf : ConstantBetween breaks f)
    (lo hi : K) :
    (∀ x, lower ≤ x → x ≤ upper → ∃ s, f x = some s ∧ lo ≤ s - x ∧ s - x ≤ hi) ↔
      (∃ s, f lower = some s ∧ lo ≤ s - lower ∧ s - lower ≤ hi) ∧
        ∀ p ∈ stretches breaks lower upper, ∃ s, f p.2 = some s ∧ lo ≤ s - p.2 ∧ s - p.1 ≤ hi := by
  refine ⟨fun h => ⟨h lower (le_refl _) hle, fun p hp => ?_⟩, ?_⟩
  · obtain ⟨hl, hp12, hu, -⟩ := stretch_spec hle hp
    obtain ⟨s, hs, hlo, hhi⟩ := h p.2 (hl.trans hp12) hu
    refine ⟨s, hs, hlo, ?_⟩
    rcases hp12.eq_or_lt with heq | hlt
    · exact heq ▸ hhi
    · refine sub_left_le hlt fun x h1 h2 => ?_
      obtain ⟨r, hr, -, hrhi⟩ := h x (hl.trans h1.le) (h2.trans hu)
      rw [eq_right_end hle hf hp h1 h2, hs, Option.some.injEq] at hr
      exact hr ▸ hrhi
  · rintro ⟨hfirst, hall⟩ x hlx hxu
    rcases hlx.eq_or_lt with rfl | hlt
    · exact hfirst
    · have hlast : ∃ b ∈ stretchEnds breaks lower upper, x ≤ b :=
        ⟨upper, List.mem_append_right _ (List.mem_singleton_self _), hxu⟩
      obtain ⟨p, hp, h1, h2⟩ : ∃ p ∈ stretches breaks lower upper, p.1 < x ∧ x ≤ p.2 :=
        exists_consecutive_around id lower hlt hlast
      obtain ⟨s, hs, hlo, hhi⟩ := hall p hp
      refine ⟨s, (eq_right_end hle hf hp h1 h2).trans hs, ?_, ?_⟩ <;> linarith

end CrdbLab.Lib.Stretches
