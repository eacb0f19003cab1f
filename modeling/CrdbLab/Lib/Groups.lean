import CrdbLab.Lib.OrderStat
import Mathlib.Data.List.Dedup

/-!
Grouping the rows of a table.

Rows whose key is missing belong to no group. The groups come by increasing key, and the
rows of a group in the order of the table.
-/

namespace CrdbLab.Lib.Groups

open CrdbLab.Lib.KeySort CrdbLab.Lib.OrderStat

variable {α β K : Type*} [LinearOrder K] (key : α → Option K)

/-- The rows of one group. -/
def rowsOf (l : List α) (k : K) : List α := l.filter fun a => key a = some k

/-- The groups with their keys. -/
def groupBy (l : List α) : List (K × List α) :=
  (sorted (l.filterMap key).dedup).map fun k => (k, rowsOf key l k)

/-- The number of distinct values that are not missing. -/
def nunique [DecidableEq β] (l : List (Option β)) : ℕ := (l.filterMap id).dedup.length

variable {key}

lemma mem_rowsOf {l : List α} {k : K} {a : α} : a ∈ rowsOf key l k ↔ a ∈ l ∧ key a = some k := by
  simp [rowsOf]

/-- What is computed of each group, computed of the group of any key that occurs. -/
lemma mem_map_groupBy {l : List α} {f : K × List α → β} {x : β} :
    x ∈ (groupBy key l).map f ↔ ∃ a ∈ l, ∃ k, key a = some k ∧ f (k, rowsOf key l k) = x := by
  simp only [List.mem_map, groupBy, mem_sortOn, List.mem_dedup, List.mem_filterMap]
  constructor
  · rintro ⟨-, ⟨k, ⟨a, ha, hk⟩, rfl⟩, hx⟩
    exact ⟨a, ha, k, hk, hx⟩
  · rintro ⟨a, ha, k, hk, hx⟩
    exact ⟨_, ⟨k, ⟨a, ha, hk⟩, rfl⟩, hx⟩

lemma mem_groupBy {l : List α} {p : K × List α} :
    p ∈ groupBy key l ↔ ∃ a ∈ l, key a = some p.1 ∧ rowsOf key l p.1 = p.2 := by
  obtain ⟨k, group⟩ := p
  simp only [groupBy, List.mem_map, mem_sortOn, List.mem_dedup, List.mem_filterMap, Prod.mk.injEq]
  constructor
  · rintro ⟨k', ⟨a, ha, hk⟩, rfl, hrows⟩
    exact ⟨a, ha, hk, hrows⟩
  · rintro ⟨a, ha, hk, hrows⟩
    exact ⟨k, ⟨a, ha, hk⟩, rfl, hrows⟩

/-- A change of the rows that keeps their keys changes the groups row by row. -/
lemma groupBy_map {β : Type*} {key' : β → Option K} {f : α → β}
    (h : ∀ a, key' (f a) = key a) (l : List α) :
    groupBy key' (l.map f) = (groupBy key l).map fun p => (p.1, p.2.map f) := by
  have hkeys : (l.map f).filterMap key' = l.filterMap key := by
    rw [List.filterMap_map]
    exact List.filterMap_congr fun a _ => h a
  rw [groupBy, groupBy, hkeys, List.map_map]
  refine List.map_congr_left fun k _ => ?_
  have hrows : rowsOf key' (l.map f) k = (rowsOf key l k).map f := by
    rw [rowsOf, rowsOf, List.filter_map]
    refine congrArg (List.map f) (List.filter_congr fun a _ => ?_)
    simp only [Function.comp_apply, h a]
  rw [hrows]
  rfl

/-- The distinct values in order depend on which values occur only. -/
lemma sorted_dedup_congr {l l' : List K} (h : ∀ x, x ∈ l ↔ x ∈ l') :
    sorted l.dedup = sorted l'.dedup := by
  refine eq_of_mem_iff id (strict_sortOn id ?_) (strict_sortOn id ?_) fun x => ?_
  · simpa using l.nodup_dedup
  · simpa using l'.nodup_dedup
  · simp only [mem_sortOn, List.mem_dedup, h]

/-- What is computed from the rows that occur in each group is the same in tables with the same
rows. -/
lemma map_groupBy_congr {l l' : List α} {f : K × List α → β} (h : ∀ a, a ∈ l ↔ a ∈ l')
    (hf : ∀ k g g', (∀ a, a ∈ g ↔ a ∈ g') → f (k, g) = f (k, g')) :
    (groupBy key l).map f = (groupBy key l').map f := by
  have hkeys : sorted (l.filterMap key).dedup = sorted (l'.filterMap key).dedup := by
    refine sorted_dedup_congr fun k => ?_
    simp only [List.mem_filterMap, h]
  unfold groupBy
  rw [hkeys, List.map_map, List.map_map]
  refine List.map_congr_left fun k _ => hf k _ _ fun a => ?_
  simp only [mem_rowsOf, h]

lemma filterMap_groupBy_congr {l l' : List α} {f : K × List α → Option β}
    (h : ∀ a, a ∈ l ↔ a ∈ l')
    (hf : ∀ k g g', (∀ a, a ∈ g ↔ a ∈ g') → f (k, g) = f (k, g')) :
    (groupBy key l).filterMap f = (groupBy key l').filterMap f := by
  have hmap := congrArg (List.filterMap id) (@map_groupBy_congr _ _ _ _ key _ _ _ h hf)
  rwa [List.filterMap_map, List.filterMap_map, Function.id_comp] at hmap

/-- What does not depend on the order of a group's rows does not depend on that of the table. -/
lemma map_groupBy_perm {l l' : List α} {f : K × List α → β} (h : l.Perm l')
    (hf : ∀ k g g', g.Perm g' → f (k, g) = f (k, g')) :
    (groupBy key l).map f = (groupBy key l').map f := by
  have hkeys : sorted (l.filterMap key).dedup = sorted (l'.filterMap key).dedup :=
    sorted_dedup_congr fun k => (h.filterMap key).mem_iff
  unfold groupBy
  rw [hkeys, List.map_map, List.map_map]
  exact List.map_congr_left fun k _ => hf k _ _ (h.filter _)

/-- Where every row has a key, the groups are those of the keys that occur. -/
lemma groupBy_some {key : α → K} (l : List α) :
    groupBy (fun a => some (key a)) l =
      (sorted (l.map key).dedup).map fun k => (k, l.filter fun a => key a = k) := by
  have hkeys : l.filterMap (fun a => some (key a)) = l.map key :=
    congrFun List.filterMap_eq_map' l
  rw [groupBy, hkeys]
  refine List.map_congr_left fun k _ => ?_
  rw [rowsOf]
  simp only [Option.some.injEq]

/-- **Selecting among the keys**: where the selected ones are the images of some values, they come
in the order of those values. -/
lemma filter_sorted_dedup {B : Type*} [LinearOrder B] {l : List K} {p : K → Bool} {m : List B}
    {f : B → K} (hf : StrictMono f) (h : ∀ k, k ∈ l ∧ p k = true ↔ ∃ b ∈ m, f b = k) :
    (sorted l.dedup).filter p = (sorted m.dedup).map f := by
  have hleft : ((sorted l.dedup).filter p).Pairwise (· < ·) := by
    have hstrict := strict_sortOn id (l := l.dedup) (by simpa using l.nodup_dedup)
    exact hstrict.sublist List.filter_sublist
  have hright : ((sorted m.dedup).map f).Pairwise (· < ·) := by
    have hstrict := strict_sortOn id (l := m.dedup) (by simpa using m.nodup_dedup)
    exact List.pairwise_map.mpr (hstrict.imp fun hlt => hf hlt)
  refine eq_of_mem_iff id hleft hright fun k => ?_
  simp only [List.mem_filter, mem_sortOn, List.mem_dedup, List.mem_map]
  exact h k

/-- **A check of each group finds nothing** exactly if it finds nothing in the group of any
key that occurs. -/
lemma filterMap_groupBy_eq_nil {l : List α} {f : K × List α → Option β} :
    (groupBy key l).filterMap f = [] ↔
      ∀ a ∈ l, ∀ k, key a = some k → f (k, rowsOf key l k) = none := by
  simp only [List.filterMap_eq_nil_iff, groupBy, List.forall_mem_map, mem_sortOn, List.mem_dedup,
    List.mem_filterMap]
  constructor
  · intro h a ha k hk
    exact h k ⟨a, ha, hk⟩
  · rintro h k ⟨a, ha, hk⟩
    exact h a ha k hk

/-- A list has at most one distinct entry if any two of its entries are equal. -/
lemma length_dedup_le_one [DecidableEq β] {l : List β} :
    l.dedup.length ≤ 1 ↔ ∀ x ∈ l, ∀ y ∈ l, x = y := by
  rw [← List.card_toFinset, Finset.card_le_one]
  simp only [List.mem_toFinset]

lemma nunique_eq_card [DecidableEq β] (l : List (Option β)) :
    nunique l = (l.filterMap id).toFinset.card := rfl

lemma nunique_congr [DecidableEq β] {l l' : List (Option β)} (h : ∀ x, x ∈ l ↔ x ∈ l') :
    nunique l = nunique l' := by
  rw [nunique_eq_card, nunique_eq_card]
  refine congrArg Finset.card (Finset.ext fun x => ?_)
  simp only [List.mem_toFinset, List.mem_filterMap, h]

end CrdbLab.Lib.Groups
