import Mathlib.Data.List.DropRight
import Mathlib.Algebra.Field.Defs
import Mathlib.Algebra.BigOperators.Group.List.Basic

/-!
The most recent entries of a selection, and their mean.

An entry is among the last `n` selected ones when fewer than `n` selected entries follow
it, which says which entries a trailing average is taken over.
-/

namespace CrdbLab.Lib.Recent

variable {α : Type*}

/-- The arithmetic mean; that of no entry is zero. -/
def mean {K : Type*} [DivisionRing K] (l : List K) : K := l.sum / l.length

lemma mem_rtake_iff {l : List α} {n : ℕ} {a : α} :
    a ∈ l.rtake n ↔ ∃ pre post, l = pre ++ a :: post ∧ post.length < n := by
  refine ⟨fun h => ?_, ?_⟩
  · obtain ⟨u, v, huv⟩ := List.append_of_mem h
    refine ⟨l.take (l.length - n) ++ u, v, ?_, ?_⟩
    · rw [List.append_assoc, ← huv, List.rtake, List.take_append_drop]
    · have hlen := congrArg List.length huv
      rw [List.rtake, List.length_drop, List.length_append, List.length_cons] at hlen
      omega
  · rintro ⟨pre, post, rfl, hlt⟩
    have hle : (pre ++ a :: post).length - n ≤ pre.length := by
      simp only [List.length_append, List.length_cons]
      omega
    rw [List.rtake, List.drop_append_of_le_length hle]
    simp

lemma filter_eq_append_cons {l u v : List α} {p : α → Bool} {a : α} :
    l.filter p = u ++ a :: v ↔
      ∃ pre post, l = pre ++ a :: post ∧ pre.filter p = u ∧ p a = true ∧ post.filter p = v := by
  refine ⟨fun h => ?_, ?_⟩
  · obtain ⟨l₁, l₂, rfl, hu, hv⟩ := List.filter_eq_append_iff.mp h
    obtain ⟨m₁, m₂, rfl, hskip, hpa, hv⟩ := List.filter_eq_cons_iff.mp hv
    refine ⟨l₁ ++ m₁, m₂, by simp, ?_, hpa, hv⟩
    rw [List.filter_append, hu, List.filter_eq_nil_iff.mpr hskip, List.append_nil]
  · rintro ⟨pre, post, rfl, rfl, hpa, rfl⟩
    simp [hpa]

/-- **None of the last `n` selected entries is bad exactly when `n` selected entries follow
every bad one.** -/
theorem forall_mem_rtake_filter_iff {l : List α} {n : ℕ} {p : α → Bool} {bad : α → Prop} :
    (∀ a ∈ (l.filter p).rtake n, ¬ bad a) ↔
      ∀ pre a post, l = pre ++ a :: post → p a = true → bad a → n ≤ (post.filter p).length := by
  refine ⟨fun h pre a post hl hp hbad => ?_, fun h a ha hbad => ?_⟩
  · by_contra hlt
    refine h a (mem_rtake_iff.mpr ⟨pre.filter p, post.filter p, ?_, not_le.mp hlt⟩) hbad
    exact filter_eq_append_cons.mpr ⟨pre, post, hl, rfl, hp, rfl⟩
  · obtain ⟨u, v, huv, hlt⟩ := mem_rtake_iff.mp ha
    obtain ⟨pre, post, hl, -, hp, rfl⟩ := filter_eq_append_cons.mp huv
    exact absurd (h pre a post hl hp hbad) (not_le.mpr hlt)

end CrdbLab.Lib.Recent
