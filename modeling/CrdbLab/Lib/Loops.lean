import Mathlib.Data.Option.Basic
import Mathlib.Data.Nat.Notation
import Mathlib.Data.List.Basic

/-!
Loops that may not end.

`turn s` is the state after one more turn, and nothing where the condition of the loop fails.
A run of the loop is given the most turns it may take, and has a result when the condition
fails by then. A loop ends when a measure goes down with every turn, and never does when a
property keeps the condition true. A loop over the positions of a list shuffles it in place:
whatever is drawn, the entries are only moved.
-/

namespace CrdbLab.Lib.Loops

variable {S : Type*} (turn : S → Option S)

def loop : ℕ → S → Option S
  | 0, s =>
    match turn s with
    | none => some s
    | some _ => none
  | turns + 1, s =>
    match turn s with
    | none => some s
    | some t => loop turns t

variable {turn}

lemma loop_of_none {s : S} (h : turn s = none) (turns : ℕ) : loop turn turns s = some s := by
  cases turns with
  | zero => simp only [loop, h]
  | succ turns => simp only [loop, h]

lemma loop_zero_of_some {s t : S} (h : turn s = some t) : loop turn 0 s = none := by
  simp only [loop, h]

lemma loop_succ_of_some {s t : S} (h : turn s = some t) (turns : ℕ) :
    loop turn (turns + 1) s = loop turn turns t := by
  simp only [loop, h]

/-- The loop ends, and its invariant holds where it does. -/
theorem loop_of_decreasing (I : S → Prop) (μ : S → ℕ)
    (h : ∀ s t, I s → turn s = some t → I t ∧ μ t < μ s) {s : S} (hs : I s) {turns : ℕ}
    (hturns : μ s ≤ turns) : ∃ u, loop turn turns s = some u ∧ I u ∧ turn u = none := by
  induction turns generalizing s with
  | zero =>
    cases hcond : turn s with
    | none => exact ⟨s, loop_of_none hcond 0, hs, hcond⟩
    | some t => exact absurd (h s t hs hcond).2 (by omega)
  | succ turns ih =>
    cases hcond : turn s with
    | none => exact ⟨s, loop_of_none hcond _, hs, hcond⟩
    | some t =>
      obtain ⟨ht, hdecr⟩ := h s t hs hcond
      rw [loop_succ_of_some hcond]
      exact ih ht (by omega)

/-- The loop has no result however many turns it takes. -/
theorem loop_eq_none_of_kept (P : S → Prop) (h : ∀ s, P s → ∃ t, turn s = some t ∧ P t) {s : S}
    (hs : P s) (turns : ℕ) : loop turn turns s = none := by
  induction turns generalizing s with
  | zero =>
    obtain ⟨t, hcond, -⟩ := h s hs
    exact loop_zero_of_some hcond
  | succ turns ih =>
    obtain ⟨t, hcond, ht⟩ := h s hs
    rw [loop_succ_of_some hcond]
    exact ih ht

/-! ### Shuffling a list in place -/

section Shuffle

variable {α : Type*}

/-- Two entries exchanged. -/
def swap (l : List α) (i j : ℕ) : List α :=
  match l[i]?, l[j]? with
  | some a, some b => (l.set i b).set j a
  | _, _ => l

/-- The exchanges at the position and before it, down to the second entry. -/
def shuffleFrom (draw : (i : ℕ) → Fin (i + 1)) : ℕ → List α → List α
  | 0, l => l
  | i + 1, l => shuffleFrom draw i (swap l (i + 1) (draw (i + 1)))

def shuffle (draw : (i : ℕ) → Fin (i + 1)) (l : List α) : List α :=
  shuffleFrom draw (l.length - 1) l

lemma swap_perm (l : List α) (i j : ℕ) : (swap l i j).Perm l := by
  unfold swap
  split
  · next a b ha hb =>
    obtain ⟨hi, rfl⟩ := List.getElem?_eq_some_iff.mp ha
    obtain ⟨hj, rfl⟩ := List.getElem?_eq_some_iff.mp hb
    exact List.set_set_perm hi hj
  · exact List.Perm.refl l

lemma shuffleFrom_perm (draw : (i : ℕ) → Fin (i + 1)) (i : ℕ) (l : List α) :
    (shuffleFrom draw i l).Perm l := by
  induction i generalizing l with
  | zero => exact List.Perm.refl l
  | succ i ih => exact (ih _).trans (swap_perm l _ _)

/-- **A shuffled list** has the entries of the list. -/
theorem shuffle_perm (draw : (i : ℕ) → Fin (i + 1)) (l : List α) : (shuffle draw l).Perm l :=
  shuffleFrom_perm draw _ l

end Shuffle

end CrdbLab.Lib.Loops
