import CrdbLab.Lib.KeySort
import CrdbLab.Lib.Rounding
import Mathlib.Data.Finset.Max
import Mathlib.Order.Bounds.Basic

/-!
Order statistics of a list of numbers.

The nearest-rank quantile and the upper median are entries of the sorted list at a
position that depends on its length only. A position that so few entries stay below is
taken by the maximum. The entry at a position is the least bound that so many entries keep,
and the least of the largest values of so many. It stays where every entry is copied as often,
and moves by no more than the entries do.
-/

namespace CrdbLab.Lib.OrderStat

open CrdbLab.Lib.KeySort CrdbLab.Lib.Rounding

section Sorted

variable {K : Type*} [LinearOrder K]

/-- The numbers in increasing order. -/
abbrev sorted (l : List K) : List K := sortOn id l

/-- If at most `i` entries are below the maximum, it stands at position `i`. -/
lemma getElem?_sorted_of_max {l : List K} {g : K} {i : ℕ} (hmax : ∀ x ∈ l, x ≤ g)
    (hlow : (l.filter fun x => x < g).length ≤ i) (hi : i < l.length) :
    (sorted l)[i]? = some g := by
  have hsplit := ordered_split id (ordered_sortOn id l) g
  simp only [id_eq] at hsplit
  unfold sorted
  rw [← hsplit, ← sortOn_filter, List.getElem?_append_right (by simpa using hlow)]
  have hlen : i - (sortOn id (l.filter fun x => x < g)).length <
      ((sortOn id l).filter fun x => g ≤ x).length := by
    have h := congrArg List.length hsplit
    rw [← sortOn_filter, List.length_append, length_sortOn, length_sortOn] at h
    rw [length_sortOn]
    omega
  rw [List.getElem?_eq_getElem hlen, Option.some.injEq]
  have hmem := List.mem_filter.mp (List.getElem_mem hlen)
  have hle := hmax _ ((mem_sortOn id).mp hmem.1)
  exact le_antisymm hle (of_decide_eq_true hmem.2)

/-- Enough copies of a maximum take every position from the number of other entries on. -/
lemma getElem?_sorted_append_replicate {l : List K} {g : K} {k i : ℕ} (hmax : ∀ x ∈ l, x ≤ g)
    (hlow : l.length ≤ i) (hi : i < l.length + k) :
    (sorted (l ++ List.replicate k g))[i]? = some g := by
  refine getElem?_sorted_of_max ?_ ?_ (by simpa using hi)
  · intro x hx
    rcases List.mem_append.mp hx with hx | hx
    · exact hmax x hx
    · exact (List.eq_of_mem_replicate hx).le
  · have hnone : (List.replicate k g).filter (fun x => x < g) = [] := by
      simp
    rw [List.filter_append, hnone, List.append_nil]
    exact le_trans (List.length_filter_le _ _) hlow

end Sorted

/-! ### Thresholds -/

section Threshold

variable {ι K : Type*} [LinearOrder K]

/-- The least bound at which the count reaches `n`. -/
def IsThreshold (count : K → ℕ) (n : ℕ) (v : K) : Prop := ∀ t, v ≤ t ↔ n ≤ count t

lemma IsThreshold.isLeast {count : K → ℕ} {n : ℕ} {v : K} (h : IsThreshold count n v) :
    IsLeast {t | n ≤ count t} v :=
  ⟨(h v).mp le_rfl, fun t ht => (h t).mpr ht⟩

/-- What counts less reaches `n` no earlier. -/
lemma IsThreshold.mono {count count' : K → ℕ} {n : ℕ} {v v' : K} (h : IsThreshold count n v)
    (h' : IsThreshold count' n v') (hle : ∀ t, count' t ≤ count t) : v ≤ v' :=
  (h v').mpr (((h' v').mp le_rfl).trans (hle v'))

/-- What counts less, but not where `n` is reached, reaches it there. -/
lemma IsThreshold.eq {count count' : K → ℕ} {n : ℕ} {v v' : K} (h : IsThreshold count n v)
    (h' : IsThreshold count' n v') (hle : ∀ t, count' t ≤ count t) (heq : count' v = count v) :
    v' = v := by
  refine le_antisymm ((h' v).mpr ?_) (h.mono h' hle)
  rw [heq]
  exact (h v).mp le_rfl

/-- In an ordered list, an entry keeps a bound exactly if more entries than stand before it do. -/
lemma getElem_le_iff {l : List K} (h : l.Pairwise (· ≤ ·)) {i : ℕ} (hi : i < l.length) (t : K) :
    l[i] ≤ t ↔ i < l.countP (· ≤ t) := by
  induction l generalizing i with
  | nil => simp at hi
  | cons a l ih =>
    obtain ⟨ha, hl⟩ := List.pairwise_cons.mp h
    by_cases hat : a ≤ t
    · rw [List.countP_cons_of_pos (by simpa using hat)]
      cases i with
      | zero => simp [hat]
      | succ i =>
        rw [List.getElem_cons_succ, ih hl (by simpa using hi)]
        omega
    · have hgt : ∀ b ∈ a :: l, ¬ b ≤ t := by
        intro b hb hbt
        rcases List.mem_cons.mp hb with rfl | hb
        · exact hat hbt
        · exact hat ((ha b hb).trans hbt)
      have hnone : (a :: l).countP (· ≤ t) = 0 :=
        List.countP_eq_zero.mpr fun b hb => by simpa using hgt b hb
      rw [hnone]
      exact iff_of_false (hgt _ (List.getElem_mem hi)) (Nat.not_lt_zero i)

/-- The entry at a position of the sorted list is the least bound that so many entries keep. -/
lemma isThreshold_sorted {l : List K} {i : ℕ} (hi : i < (sorted l).length) :
    IsThreshold (fun t => l.countP (· ≤ t)) (i + 1) (sorted l)[i] := by
  intro t
  rw [getElem_le_iff (ordered_sortOn id l) hi, (sortOn_perm id l).countP_eq, Nat.succ_le_iff]

/-- So many elements have a property exactly if a set of so many has it throughout. -/
lemma le_card_filter_iff {s : Finset ι} {p : ι → Prop} [DecidablePred p] {n : ℕ} :
    n ≤ (s.filter p).card ↔ ∃ T ⊆ s, T.card = n ∧ ∀ x ∈ T, p x := by
  constructor
  · intro h
    obtain ⟨T, hT, hcard⟩ := Finset.exists_subset_card_eq h
    refine ⟨T, hT.trans (Finset.filter_subset p s), hcard, fun x hx => ?_⟩
    exact (Finset.mem_filter.mp (hT hx)).2
  · rintro ⟨T, hT, rfl, hall⟩
    exact Finset.card_le_card fun x hx => Finset.mem_filter.mpr ⟨hT hx, hall x hx⟩

/-- **The threshold as a minimum of maxima**: the least bound that `n` elements keep is the
least of the largest values of the sets of `n`. -/
theorem IsThreshold.isLeast_max {s : Finset ι} {f : ι → K} {n : ℕ} {v : K} (hn : 0 < n)
    (h : IsThreshold (fun t => (s.filter fun x => f x ≤ t).card) n v) :
    IsLeast {m | ∃ T ⊆ s, T.card = n ∧ IsGreatest (f '' T) m} v := by
  have hlower : ∀ T ⊆ s, T.card = n → ∀ m, IsGreatest (f '' T) m → v ≤ m := by
    intro T hT hcard m hm
    refine (h m).mpr (le_card_filter_iff.mpr ⟨T, hT, hcard, fun x hx => ?_⟩)
    exact hm.2 (Set.mem_image_of_mem f hx)
  refine ⟨?_, fun m ⟨T, hT, hcard, hm⟩ => hlower T hT hcard m hm⟩
  obtain ⟨T, hT, hcard, hall⟩ := le_card_filter_iff.mp ((h v).mp le_rfl)
  have hne : T.Nonempty := Finset.card_pos.mp (hcard ▸ hn)
  obtain ⟨x, hx, hmax⟩ := T.exists_max_image f hne
  have hgreatest : IsGreatest (f '' T) (f x) :=
    ⟨Set.mem_image_of_mem f hx, fun y ⟨z, hz, hy⟩ => hy ▸ hmax z hz⟩
  have heq : f x = v := le_antisymm (hall x hx) (hlower T hT hcard (f x) hgreatest)
  exact ⟨T, hT, hcard, heq ▸ hgreatest⟩

end Threshold

/-! ### Copies and changes of all entries -/

section Copies

variable {ι α K : Type*} [LinearOrder K]

lemma sorted_perm {l l' : List K} (h : l.Perm l') : sorted l = sorted l' := by
  simpa using map_sortOn_perm id h

/-- Where every entry stands as often, a position is found by dividing by the copies. -/
lemma getElem?_flatMap_replicate {m : ℕ} (hm : 0 < m) (l : List α) (i : ℕ) :
    (l.flatMap (List.replicate m))[i]? = l[i / m]? := by
  induction l generalizing i with
  | nil => simp
  | cons a l ih =>
    rw [List.flatMap_cons]
    rcases Nat.lt_or_ge i m with hi | hi
    · rw [List.getElem?_append_left (by simpa using hi), Nat.div_eq_of_lt hi,
        List.getElem?_replicate_of_lt hi, List.getElem?_cons_zero]
    · have hdiv : i / m = (i - m) / m + 1 := by rw [Nat.div_eq_sub_div hm hi]
      rw [List.getElem?_append_right (by simpa using hi), List.length_replicate, ih, hdiv,
        List.getElem?_cons_succ]

lemma length_flatMap_replicate (m : ℕ) (l : List α) :
    (l.flatMap (List.replicate m)).length = l.length * m := by
  simp [List.length_flatMap]

/-- Copies stand together in the sorted list. -/
lemma sorted_flatMap_replicate (m : ℕ) (l : List K) :
    sorted (l.flatMap (List.replicate m)) = (sorted l).flatMap (List.replicate m) := by
  have hordered : Ordered id ((sorted l).flatMap (List.replicate m)) := by
    refine List.pairwise_flatMap.mpr
      ⟨fun a _ => List.pairwise_replicate.mpr (Or.inr le_rfl), ?_⟩
    refine (ordered_sortOn id l).imp fun {a b} hab x hx y hy => ?_
    rw [List.eq_of_mem_replicate hx, List.eq_of_mem_replicate hy]
    exact hab
  rw [← sortOn_eq_self id hordered]
  exact sorted_perm ((sortOn_perm id l).symm.flatMap_right _)

/-- What moves every value up by at most `δ` moves every order statistic so. -/
lemma getElem_sorted_map_le [AddCommGroup K] [IsOrderedAddMonoid K] {l : List ι} {f g : ι → K}
    {δ : K} (h : ∀ x ∈ l, f x ≤ g x + δ) {i : ℕ} (hf : i < (sorted (l.map f)).length)
    (hg : i < (sorted (l.map g)).length) :
    (sorted (l.map f))[i] ≤ (sorted (l.map g))[i] + δ := by
  refine (isThreshold_sorted hf _).mpr ?_
  have hcount := (isThreshold_sorted hg _).mp le_rfl
  refine hcount.trans ?_
  dsimp only
  rw [List.countP_map, List.countP_map]
  refine List.countP_mono_left fun x hx hle => ?_
  simp only [Function.comp_apply, decide_eq_true_eq] at hle ⊢
  exact (h x hx).trans (by gcongr)

end Copies

section Quantile

variable {K : Type*} [Field K] [LinearOrder K] [FloorRing K]

/-- The nearest-rank quantile, so every value returned is an entry. -/
def quantile (l : List K) (q : K) : Option K :=
  if l = [] then none else (sorted l)[nearestRank l.length q]?

@[simp] lemma quantile_nil (q : K) : quantile ([] : List K) q = none := rfl

lemma nearestRank_lt {n : ℕ} (hn : n ≠ 0) (q : K) : nearestRank n q < n := by
  unfold nearestRank
  omega

lemma quantile_mem {l : List K} (hl : l ≠ []) (q : K) : ∃ x ∈ l, quantile l q = some x := by
  have hlt : nearestRank l.length q < (sorted l).length := by
    rw [length_sortOn]
    exact nearestRank_lt (by simpa using hl) q
  refine ⟨(sorted l)[nearestRank l.length q], ?_, ?_⟩
  · exact (mem_sortOn id).mp (List.getElem_mem hlt)
  · rw [quantile, if_neg hl, List.getElem?_eq_getElem hlt]

lemma le_nearestRank [IsStrictOrderedRing K] {n m : ℕ} {q : K} (hm : m < n)
    (h : (m : K) + 1 ≤ q * n) : m ≤ nearestRank n q := by
  have hround := (abs_le.mp (abs_halfEven_sub_le (q * n + 1 / 2))).1
  have hint : (m : ℤ) + 1 ≤ halfEven (q * n + 1 / 2) := by
    have : ((m : ℤ) + 1 : ℤ) ≤ (halfEven (q * n + 1 / 2) : K) := by
      push_cast
      linarith
    exact_mod_cast this
  unfold nearestRank
  omega

/-- Enough copies of a maximum make it the quantile. -/
lemma quantile_append_replicate [IsStrictOrderedRing K] {l : List K} {g q : K} {k : ℕ}
    (hmax : ∀ x ∈ l, x ≤ g) (hk : 0 < k) (hq : (l.length : K) + 1 ≤ q * (l.length + k : ℕ)) :
    quantile (l ++ List.replicate k g) q = some g := by
  have hlen : (l ++ List.replicate k g).length = l.length + k := by simp
  have hne : l ++ List.replicate k g ≠ [] := by
    intro h
    rw [h, List.length_nil] at hlen
    omega
  rw [quantile, if_neg hne, hlen]
  exact getElem?_sorted_append_replicate hmax (le_nearestRank (by omega) hq)
    (nearestRank_lt (by omega) q)

end Quantile

/-- The middle entry, or the mean of the two middle ones. -/
def median (l : List ℚ) : Option ℚ :=
  if l.length % 2 = 1 then (sorted l)[l.length / 2]?
  else do return ((← (sorted l)[l.length / 2 - 1]?) + (← (sorted l)[l.length / 2]?)) / 2

end CrdbLab.Lib.OrderStat
