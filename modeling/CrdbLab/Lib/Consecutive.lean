import CrdbLab.Lib.KeySort
import Mathlib.Algebra.Order.Group.Defs
import Mathlib.Algebra.Order.Group.Basic

/-!
Neighbours in a list, and the gaps between them.

In an ordered list the gaps are never negative, the gaps that close below a threshold are
those of the elements below it, and an interval that contains no element lies inside a gap
or after the last element.
-/

namespace CrdbLab.Lib.Consecutive

open CrdbLab.Lib.KeySort

variable {α K : Type*}

/-- The pairs of neighbours, in order. -/
def consecutive (l : List α) : List (α × α) := l.zip l.tail

@[simp] lemma consecutive_nil : consecutive ([] : List α) = [] := rfl

@[simp] lemma consecutive_singleton (a : α) : consecutive [a] = [] := rfl

@[simp] lemma consecutive_cons_cons (a b : α) (l : List α) :
    consecutive (a :: b :: l) = (a, b) :: consecutive (b :: l) := rfl

lemma length_consecutive (l : List α) : (consecutive l).length = l.length - 1 := by
  simp [consecutive]

lemma consecutive_map {β : Type*} (f : α → β) (l : List α) :
    consecutive (l.map f) = (consecutive l).map (Prod.map f f) := by
  unfold consecutive
  rw [← List.map_tail, List.zip_map]

lemma consecutive_append (l : List α) (a b : α) (m : List α) :
    consecutive (l ++ a :: b :: m) = consecutive (l ++ [a]) ++ (a, b) :: consecutive (b :: m) := by
  induction l with
  | nil => rfl
  | cons c t ih =>
    cases t with
    | nil => rfl
    | cons d t => simpa using ih

lemma mem_consecutive_iff {l : List α} {a b : α} :
    (a, b) ∈ consecutive l ↔ ∃ u v, l = u ++ a :: b :: v := by
  refine ⟨fun h => ?_, ?_⟩
  · induction l with
    | nil => simp at h
    | cons c t ih =>
      cases t with
      | nil => simp at h
      | cons d t =>
        rw [consecutive_cons_cons] at h
        rcases List.mem_cons.mp h with h | h
        · obtain ⟨rfl, rfl⟩ := Prod.mk.inj h
          exact ⟨[], t, rfl⟩
        · obtain ⟨u, v, huv⟩ := ih h
          exact ⟨c :: u, v, by rw [huv]; rfl⟩
  · rintro ⟨u, v, rfl⟩
    rw [consecutive_append]
    simp

/-- Neighbours in a part of a list are neighbours in the list. -/
lemma mem_consecutive_of_infix {l m : List α} (h : l <:+: m) {p : α × α}
    (hp : p ∈ consecutive l) : p ∈ consecutive m := by
  obtain ⟨u, w, rfl⟩ := h
  obtain ⟨u', w', rfl⟩ := mem_consecutive_iff.mp (show (p.1, p.2) ∈ consecutive l from hp)
  exact mem_consecutive_iff.mpr ⟨u ++ u', w' ++ w, by simp⟩

lemma mem_of_mem_consecutive {l : List α} {p : α × α} (h : p ∈ consecutive l) :
    p.1 ∈ l ∧ p.2 ∈ l := by
  obtain ⟨u, v, rfl⟩ := mem_consecutive_iff.mp (show (p.1, p.2) ∈ consecutive l from h)
  simp

/-- The differences of neighbours add up to that of the ends. -/
lemma sum_consecutive_sub [AddCommGroup K] (f : α → K) (a : α) (l : List α) :
    ((consecutive (a :: l)).map fun p => f p.2 - f p.1).sum =
      f ((a :: l).getLast (by simp)) - f a := by
  induction l generalizing a with
  | nil => simp
  | cons b l ih =>
    rw [consecutive_cons_cons, List.map_cons, List.sum_cons, ih b,
      List.getLast_cons (List.cons_ne_nil b l)]
    exact sub_add_sub_cancel' _ _ _

section Order

variable [LinearOrder K] (key : α → K)

lemma key_le_of_mem_consecutive {l : List α} (h : Ordered key l) {p : α × α}
    (hp : p ∈ consecutive l) : key p.1 ≤ key p.2 := by
  obtain ⟨u, v, rfl⟩ := mem_consecutive_iff.mp (show (p.1, p.2) ∈ consecutive l from hp)
  have h2 := (List.pairwise_append.mp h).2.1
  exact (List.pairwise_cons.mp h2).1 p.2 (by simp)

/-- The gaps come in the order in which they open. -/
lemma ordered_consecutive {l : List α} (h : Ordered key l) :
    Ordered (fun p : α × α => key p.1) (consecutive l) := by
  induction l with
  | nil => exact List.Pairwise.nil
  | cons a t ih =>
    obtain ⟨ha, ht⟩ := List.pairwise_cons.mp h
    cases t with
    | nil => exact List.Pairwise.nil
    | cons b t =>
      rw [consecutive_cons_cons]
      exact List.pairwise_cons.mpr
        ⟨fun p hp => ha p.1 (mem_of_mem_consecutive hp).1, ih ht⟩

/-- The gaps that close below a threshold are the gaps of the part below it. -/
lemma consecutive_filter_lt {l : List α} (h : Ordered key l) (c : K) :
    (consecutive l).filter (fun p => key p.2 < c) =
      consecutive (l.filter fun a => key a < c) := by
  induction l with
  | nil => rfl
  | cons a t ih =>
    obtain ⟨ha, ht⟩ := List.pairwise_cons.mp h
    have ih := ih ht
    cases t with
    | nil => by_cases hc : key a < c <;> simp [hc]
    | cons b t =>
      by_cases hb : key b < c
      · have hac : key a < c := lt_of_le_of_lt (ha b (by simp)) hb
        simp only [hb, decide_true, List.filter_cons_of_pos, consecutive_cons_cons, hac] at ih ⊢
        rw [ih]
      · -- nothing from `b` on is below the threshold
        have hnil : (b :: t).filter (fun a => key a < c) = [] := by
          rw [List.filter_eq_nil_iff]
          intro d hd
          have hbd : key b ≤ key d := by
            rcases List.mem_cons.mp hd with rfl | hd'
            · exact le_refl _
            · exact (List.pairwise_cons.mp ht).1 d hd'
          simpa using le_trans (not_lt.mp hb) hbd
        rw [hnil] at ih
        rw [consecutive_cons_cons, List.filter_cons_of_neg (by simpa using hb), ih,
          List.filter_cons, hnil]
        split <;> rfl

/-- **An interval without an element lies in a gap or after the last element.** -/
lemma silent_between {l : List α} (h : Ordered key l) {x y : K}
    (hfirst : ∀ a ∈ l.head?, key a ≤ x) (hne : l ≠ [])
    (hsilent : ∀ a ∈ l, ¬(x < key a ∧ key a < y)) :
    (∃ p ∈ consecutive l, key p.1 ≤ x ∧ y ≤ key p.2) ∨ ∀ a ∈ l.getLast?, key a ≤ x := by
  induction l with
  | nil => exact absurd rfl hne
  | cons a t ih =>
    have ha : key a ≤ x := hfirst a (by simp)
    cases t with
    | nil => exact Or.inr (by simpa using ha)
    | cons b t =>
      by_cases hb : key b ≤ x
      · rcases ih (List.pairwise_cons.mp h).2 (by simpa using hb) (by simp)
          (fun c hc => hsilent c (List.mem_cons_of_mem _ hc)) with ⟨p, hp, hpx⟩ | hlast
        · exact Or.inl ⟨p, by simp [hp], hpx⟩
        · exact Or.inr (by simpa [List.getLast?_cons_cons] using hlast)
      · have hy : y ≤ key b := not_lt.mp fun hby => hsilent b (by simp) ⟨not_le.mp hb, hby⟩
        exact Or.inl ⟨(a, b), by simp, ha, hy⟩

/-- No element lies strictly between two neighbours. -/
lemma le_or_le_of_mem_consecutive {l : List α} (h : Ordered key l) {p : α × α}
    (hp : p ∈ consecutive l) {a : α} (ha : a ∈ l) : key a ≤ key p.1 ∨ key p.2 ≤ key a := by
  obtain ⟨u, v, rfl⟩ := mem_consecutive_iff.mp (show (p.1, p.2) ∈ consecutive l from hp)
  obtain ⟨-, htail, hcross⟩ := List.pairwise_append.mp h
  obtain ⟨-, htail⟩ := List.pairwise_cons.mp htail
  rcases List.mem_append.mp ha with ha | ha
  · exact .inl (hcross a ha p.1 (by simp))
  · rcases List.mem_cons.mp ha with rfl | ha
    · exact .inl (le_refl _)
    · rcases List.mem_cons.mp ha with rfl | ha
      · exact .inr (le_refl _)
      · exact .inr ((List.pairwise_cons.mp htail).1 a ha)

/-- The element that ends a gap of some length is the first of those with its key. -/
lemma head?_filter_key {l : List α} (h : Ordered key l) {p : α × α} (hp : p ∈ consecutive l)
    (hlt : key p.1 < key p.2) : (l.filter fun a => key a = key p.2).head? = some p.2 := by
  obtain ⟨u, v, rfl⟩ := mem_consecutive_iff.mp (show (p.1, p.2) ∈ consecutive l from hp)
  have hcross := (List.pairwise_append.mp h).2.2
  have hnone : u.filter (fun a => key a = key p.2) = [] := by
    refine List.filter_eq_nil_iff.mpr fun a ha => ?_
    have hle := hcross a ha p.1 (by simp)
    simpa using (lt_of_le_of_lt hle hlt).ne
  simp [List.filter_append, hnone, hlt.ne]

/-- Two gaps have at most an edge in common. -/
lemma eq_or_le_of_mem_consecutive {l : List α} (h : Ordered key l) {p q : α × α}
    (hp : p ∈ consecutive l) (hq : q ∈ consecutive l) :
    p = q ∨ key p.2 ≤ key q.1 ∨ key q.2 ≤ key p.1 := by
  induction l with
  | nil => simp at hp
  | cons a t ih =>
    cases t with
    | nil => simp at hp
    | cons b t =>
      have htail := (List.pairwise_cons.mp h).2
      have hlow : ∀ x ∈ b :: t, key b ≤ key x := key_head_le key htail rfl
      rw [consecutive_cons_cons] at hp hq
      rcases List.mem_cons.mp hp with rfl | hp'
      · rcases List.mem_cons.mp hq with rfl | hq'
        · exact Or.inl rfl
        · exact Or.inr (Or.inl (hlow _ (mem_of_mem_consecutive hq').1))
      · rcases List.mem_cons.mp hq with rfl | hq'
        · exact Or.inr (Or.inr (hlow _ (mem_of_mem_consecutive hp').1))
        · exact ih htail hp' hq'

/-- A value after the first element and not after the last lies between two neighbours. -/
lemma exists_consecutive_around (a : α) {t : List α} {x : K} (hfirst : key a < x)
    (hlast : ∃ b ∈ t, x ≤ key b) : ∃ p ∈ consecutive (a :: t), key p.1 < x ∧ x ≤ key p.2 := by
  induction t generalizing a with
  | nil =>
    obtain ⟨b, hb, -⟩ := hlast
    simp at hb
  | cons c t ih =>
    by_cases hc : x ≤ key c
    · exact ⟨(a, c), by simp, hfirst, hc⟩
    · have hrest : ∃ b ∈ t, x ≤ key b := by
        obtain ⟨b, hb, hxb⟩ := hlast
        rcases List.mem_cons.mp hb with rfl | hb
        · exact absurd hxb hc
        · exact ⟨b, hb, hxb⟩
      obtain ⟨p, hp, hpx⟩ := ih c (not_le.mp hc) hrest
      exact ⟨p, by simp [hp], hpx⟩

end Order

section Gaps

variable [AddCommGroup K]

/-- The differences between neighbours. -/
def diffs (l : List K) : List K := (consecutive l).map fun p => p.2 - p.1

lemma map_consecutive_eq_diffs (key : α → K) (l : List α) :
    ((consecutive l).map fun p => key p.2 - key p.1) = diffs (l.map key) := by
  unfold diffs
  rw [consecutive_map, List.map_map]
  rfl

lemma length_diffs (l : List K) : (diffs l).length = l.length - 1 := by
  rw [diffs, List.length_map, length_consecutive]

lemma diffs_append (l : List K) (a b : K) (m : List K) :
    diffs (l ++ a :: b :: m) = diffs (l ++ [a]) ++ (b - a) :: diffs (b :: m) := by
  simp [diffs, consecutive_append]

/-- `k` steps of width `d` from `c` on. -/
def steps (c d : K) : ℕ → List K
  | 0 => [c]
  | k + 1 => c :: steps (c + d) d k

lemma steps_eq_cons (c d : K) (k : ℕ) : ∃ t, steps c d k = c :: t := by
  cases k with
  | zero => exact ⟨[], rfl⟩
  | succ k => exact ⟨_, rfl⟩

/-- The gaps of an arithmetic progression are all its step. -/
lemma diffs_steps (c d : K) (k : ℕ) : diffs (steps c d k) = List.replicate k d := by
  induction k generalizing c with
  | zero => rfl
  | succ k ih =>
    obtain ⟨t, ht⟩ := steps_eq_cons (c + d) d k
    have ih := ih (c + d)
    rw [ht] at ih
    rw [steps, ht, List.replicate_succ, ← ih]
    simp [diffs]

/-- The gaps of a list that goes on in steps: its own, one bridging gap, and the steps. -/
lemma diffs_append_steps {l : List K} (hne : l ≠ []) (c : K) :
    ∃ bridge, ∀ d k, diffs (l ++ steps c d k) = diffs l ++ [bridge] ++ List.replicate k d := by
  obtain ⟨u, z, rfl⟩ : ∃ u z, l = u ++ [z] := ⟨_, _, (List.dropLast_append_getLast hne).symm⟩
  refine ⟨c - z, fun d k => ?_⟩
  obtain ⟨t, ht⟩ := steps_eq_cons c d k
  have hk := diffs_steps c d k
  rw [ht] at hk
  rw [ht, List.append_assoc, List.singleton_append, diffs_append, hk, List.append_assoc,
    List.singleton_append]

variable [LinearOrder K] [IsOrderedAddMonoid K]

/-- Small falls between neighbours add up to the fall from the first to the last. -/
lemma le_getLast_add (key : α → K) {l : List α} {ε : K}
    (h : ∀ p ∈ consecutive l, key p.1 ≤ key p.2 + ε) {a z : α} (ha : l.head? = some a)
    (hz : l.getLast? = some z) : key a ≤ key z + (l.length - 1) • ε := by
  induction l generalizing a with
  | nil => simp at ha
  | cons b t ih =>
    obtain rfl : b = a := by simpa using ha
    cases t with
    | nil =>
      obtain rfl : b = z := by simpa using hz
      simp
    | cons c t =>
      have hfirst : key b ≤ key c + ε := h (b, c) (by simp)
      have hrest := ih (fun p hp => h p (by simp [hp])) rfl (by simpa using hz)
      have hlength : (b :: c :: t).length - 1 = ((c :: t).length - 1) + 1 := by simp
      rw [hlength, succ_nsmul, ← add_assoc]
      exact hfirst.trans (by gcongr)

lemma le_of_mem_steps {c d x : K} {k : ℕ} (hd : 0 ≤ d) (hx : x ∈ steps c d k) : c ≤ x := by
  induction k generalizing c with
  | zero => exact (List.mem_singleton.mp hx).ge
  | succ k ih =>
    rcases List.mem_cons.mp hx with rfl | hx
    · exact le_refl _
    · exact le_trans (le_add_of_nonneg_right hd) (ih hx)

lemma steps_ordered {c d : K} (hd : 0 ≤ d) (k : ℕ) : (steps c d k).Pairwise (· ≤ ·) := by
  induction k generalizing c with
  | zero => exact List.pairwise_singleton _ _
  | succ k ih =>
    refine List.pairwise_cons.mpr ⟨fun x hx => ?_, ih⟩
    exact le_trans (le_add_of_nonneg_right hd) (le_of_mem_steps hd hx)

lemma append_steps_ordered {l : List K} {c d : K} (h : l.Pairwise (· ≤ ·)) (hl : ∀ x ∈ l, x ≤ c)
    (hd : 0 ≤ d) (k : ℕ) : (l ++ steps c d k).Pairwise (· ≤ ·) :=
  List.pairwise_append.mpr
    ⟨h, steps_ordered hd k, fun x hx _ hy => le_trans (hl x hx) (le_of_mem_steps hd hy)⟩

end Gaps

end CrdbLab.Lib.Consecutive
