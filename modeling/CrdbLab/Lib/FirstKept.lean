import Mathlib.Data.List.Basic
import Mathlib.Data.List.Induction

/-!
Tables that keep the first entry of each key.

An entry whose key is present already is dropped. What a table built so holds under a key is
the first element of that key, and the keys are distinct.
-/

namespace CrdbLab.Lib.FirstKept

variable {α κ : Type*} [DecidableEq κ]

/-- The table with an entry for the key, the one it has or else the given one. -/
def setDefault (table : List (κ × α)) (k : κ) (a : α) : List (κ × α) :=
  if k ∈ table.map Prod.fst then table else table ++ [(k, a)]

/-- The table built from a list by a key. -/
def keepFirst (key : α → κ) (l : List α) : List (κ × α) :=
  l.foldl (fun table a => setDefault table (key a) a) []

lemma keepFirst_snoc (key : α → κ) (l : List α) (a : α) :
    keepFirst key (l ++ [a]) = setDefault (keepFirst key l) (key a) a := by
  simp [keepFirst]

lemma mem_setDefault {table : List (κ × α)} {k k' : κ} {a a' : α} :
    (k', a') ∈ setDefault table k a ↔
      (k', a') ∈ table ∨ k ∉ table.map Prod.fst ∧ k' = k ∧ a' = a := by
  unfold setDefault
  split_ifs with h
  · simp [h]
  · simp only [List.mem_append, List.mem_singleton, Prod.mk.injEq, h, not_false_eq_true,
      true_and]

/-- **The table holds under a key** the first element that has it. -/
lemma mem_keepFirst_iff {key : α → κ} {l : List α} {k : κ} {a : α} :
    (k, a) ∈ keepFirst key l ↔ l.find? (fun b => key b = k) = some a := by
  induction l using List.reverseRecOn generalizing k a with
  | nil => simp [keepFirst]
  | append_singleton l b ih =>
    have hkeys : ∀ k, k ∈ (keepFirst key l).map Prod.fst ↔
        (l.find? fun c => key c = k) ≠ none := by
      intro k
      rw [List.mem_map, Option.ne_none_iff_exists']
      constructor
      · rintro ⟨⟨k', c⟩, hc, rfl⟩
        exact ⟨c, ih.mp hc⟩
      · rintro ⟨c, hc⟩
        exact ⟨(k, c), ih.mpr hc, rfl⟩
    rw [keepFirst_snoc, mem_setDefault, ih, hkeys, not_not, List.find?_append]
    cases hl : l.find? fun c => key c = k with
    | some c =>
      simp only [Option.some_or, or_iff_left_iff_imp, Option.some.injEq]
      rintro ⟨hnone, rfl, -⟩
      simp [hl] at hnone
    | none =>
      by_cases hk : key b = k
      · subst hk
        simp [hl, eq_comm (a := b)]
      · simp [hk, Ne.symm hk]

end CrdbLab.Lib.FirstKept
