import CrdbLab.Validation

/-!
What the check of the quantiles accepts.

Only neighbours among the columns of the table are compared. An absent column is passed over,
so that the columns around it are neighbours; a missing cell is not, so that nothing is
compared across it.
-/

namespace CrdbLab.AcceptedQuantiles

open CrdbLab.Lib.Consecutive CrdbLab.Validation
open CrdbLab.MatchedThroughput (Quantile)

/-- The first column comes before the second. -/
def Before (i j : Quantile) : Prop := [i, j].Sublist quantiles

instance (i j : Quantile) : Decidable (Before i j) := inferInstanceAs (Decidable (List.Sublist _ _))

/-- Two recorded quantiles are in order, up to three times the tolerance of one comparison. -/
def InOrder (r : Row) (i j : Quantile) : Prop :=
  ∀ x y, r.latency i = some x → r.latency j = some y → x ≤ y + 3 / 10 ^ 9

/-- What is accepted is ordered. -/
def AcceptsOrdered (t : Table) : Prop :=
  checkQuantileOrdering t = [] → ∀ r ∈ t.rows, ∀ i j, Before i j → InOrder r i j

/-- The row has no entry in a column of the table that lies between the two. -/
def GapBetween (t : Table) (r : Row) (i j : Quantile) : Prop :=
  ∃ c ∈ t.columns, Before i c ∧ Before c j ∧ r.latency c = none

/-- Two neighbouring columns of the table are recorded in the wrong order. -/
def NeighboursMisordered (t : Table) (r : Row) : Prop :=
  ∃ p ∈ consecutive (present t), ∃ x y, r.latency p.1 = some x ∧ r.latency p.2 = some y ∧
    y + 1 / 10 ^ 9 < x

variable {t : Table} {r : Row}

lemma exceeds_iff {lo hi : Option ℚ} :
    exceeds lo hi = true ↔ ∃ x y, lo = some x ∧ hi = some y ∧ y + 1 / 10 ^ 9 < x := by
  cases lo <;> cases hi <;> simp [exceeds]

lemma misordered_iff : misordered (present t) r = true ↔ NeighboursMisordered t r := by
  simp only [misordered, List.any_eq_true, exceeds_iff, NeighboursMisordered]

lemma mem_present {c : Quantile} : c ∈ present t ↔ c ∈ t.columns := by
  have hall : c ∈ quantiles := by cases c <;> decide
  simp [present, hall]

lemma present_sublist : (present t).Sublist quantiles := List.filter_sublist

/-- What stands between two columns of the table, with the columns themselves. -/
lemma exists_segment {i j : Quantile} (hbefore : Before i j) (hi : i ∈ t.columns)
    (hj : j ∈ t.columns) : ∃ v, i :: v ++ [j] <:+: present t := by
  have hpair : [i, j].Sublist (present t) := by
    have hfiltered := hbefore.filter fun c => decide (c ∈ t.columns)
    simpa [present, hi, hj] using hfiltered
  obtain ⟨u, rest, hsplit, hu, hrest⟩ := List.cons_sublist_iff.mp hpair
  obtain ⟨u', v', rfl⟩ := List.append_of_mem hu
  obtain ⟨v, w, rfl⟩ := List.append_of_mem (List.singleton_sublist.mp hrest)
  exact ⟨v' ++ v, u', w, by simp [hsplit]⟩

/-- Where no cell is missing in between, all cells of a segment are recorded. -/
lemma recorded_of_segment {i j c : Quantile} {v : List Quantile}
    (hsegment : i :: v ++ [j] <:+: present t) (hgap : ¬ GapBetween t r i j)
    (hi : r.latency i ≠ none) (hj : r.latency j ≠ none) (hc : c ∈ i :: v ++ [j]) :
    r.latency c ≠ none := by
  have hsub : (i :: v ++ [j]).Sublist quantiles := hsegment.sublist.trans present_sublist
  have hcolumn : c ∈ t.columns := mem_present.mp (hsegment.subset hc)
  simp only [List.cons_append, List.mem_cons, List.mem_append, List.not_mem_nil, or_false] at hc
  rcases hc with rfl | hc | rfl
  · exact hi
  · have hbefore : Before i c := by
      refine List.Sublist.trans ?_ hsub
      simp [hc]
    have hafter : Before c j := by
      refine List.Sublist.trans ?_ hsub
      exact ((List.singleton_sublist.mpr hc).append (List.Sublist.refl [j])).cons i
    exact fun hnone => hgap ⟨c, hcolumn, hbefore, hafter, hnone⟩
  · exact hj

/-- Neighbours of a segment that are both recorded are in order up to the tolerance. -/
lemma neighbours_ordered {l : List Quantile} (hsegment : l <:+: present t)
    (hordered : ¬ NeighboursMisordered t r) (hrecorded : ∀ c ∈ l, r.latency c ≠ none)
    {p : Quantile × Quantile} (hp : p ∈ consecutive l) :
    (r.latency p.1).getD 0 ≤ (r.latency p.2).getD 0 + 1 / 10 ^ 9 := by
  obtain ⟨hp1, hp2⟩ := mem_of_mem_consecutive hp
  obtain ⟨a, ha⟩ := Option.ne_none_iff_exists'.mp (hrecorded p.1 hp1)
  obtain ⟨b, hb⟩ := Option.ne_none_iff_exists'.mp (hrecorded p.2 hp2)
  rw [ha, hb]
  exact not_lt.mp fun hlt =>
    hordered ⟨p, mem_consecutive_of_infix hsegment hp, a, b, ha, hb, hlt⟩

/-- Across recorded cells the comparisons of neighbours add up. -/
lemma inOrder_of_recorded {i j : Quantile} (hbefore : Before i j)
    (hordered : ¬ NeighboursMisordered t r) (hr : r ∈ t.rows) (hgap : ¬ GapBetween t r i j) :
    InOrder r i j := by
  intro x y hx hy
  have hi : i ∈ t.columns := t.recorded r hr i (by simp [hx])
  have hj : j ∈ t.columns := t.recorded r hr j (by simp [hy])
  obtain ⟨v, hsegment⟩ := exists_segment hbefore hi hj
  have hrecorded : ∀ c ∈ i :: v ++ [j], r.latency c ≠ none := fun c hc =>
    recorded_of_segment hsegment hgap (by simp [hx]) (by simp [hy]) hc
  have hsum := le_getLast_add (fun c => (r.latency c).getD 0)
    (fun _ hp => neighbours_ordered hsegment hordered hrecorded hp)
    (show (i :: v ++ [j]).head? = some i from rfl) (List.getLast?_concat ..)
  have hlength : (i :: v ++ [j]).length ≤ 4 :=
    (hsegment.sublist.trans present_sublist).length_le
  have hcount : (((i :: v ++ [j]).length - 1 : ℕ) : ℚ) ≤ 3 := by exact_mod_cast (by omega)
  simp only [hx, hy, Option.getD_some, nsmul_eq_mul] at hsum
  linarith

/-- A row whose 95th percentile was not recorded, with the other two the wrong way round. -/
def holedRow : Row where
  concurrency := 8
  repetition := 1
  elapsedS := 1
  op := some "read"
  tps := some 100
  errorsCum := some 0
  p50Ms := some 10
  p99Ms := some 1
  pmaxMs := some 20

def holed : Table where
  columns := quantiles
  rows := [holedRow]
  recorded := by
    rintro r - c -
    cases c <;> decide

end CrdbLab.AcceptedQuantiles
