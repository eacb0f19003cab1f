import Mathlib.Data.List.Sort
import Mathlib.Data.List.MinMax
import Mathlib.Order.Basic

/-!
Stable sorting by a key.

Sorting a list by a key commutes with selecting from it, is decided up to the order of
equal keys by the elements alone, and puts the elements below a threshold before the rest.
-/

namespace CrdbLab.Lib.KeySort

variable {α K : Type*} [LinearOrder K] (key : α → K)

/-- The elements by increasing key, equal keys in the order of the list. -/
def sortOn (l : List α) : List α := l.insertionSort fun a b => key a ≤ key b

instance total_key : Std.Total fun a b : α => key a ≤ key b := ⟨fun a b => le_total (key a) (key b)⟩

instance isTrans_key : IsTrans α fun a b => key a ≤ key b := ⟨fun _ _ _ h h' => le_trans h h'⟩

/-- A list in which the keys never decrease. -/
abbrev Ordered (l : List α) : Prop := l.Pairwise fun a b => key a ≤ key b

@[simp] lemma sortOn_nil : sortOn key ([] : List α) = [] := rfl

lemma sortOn_perm (l : List α) : (sortOn key l).Perm l := List.perm_insertionSort _ l

@[simp] lemma mem_sortOn {l : List α} {a : α} : a ∈ sortOn key l ↔ a ∈ l :=
  List.mem_insertionSort _

@[simp] lemma length_sortOn (l : List α) : (sortOn key l).length = l.length :=
  List.length_insertionSort _ l

lemma sortOn_ne_nil {l : List α} (h : l ≠ []) : sortOn key l ≠ [] := by
  rw [← List.length_pos_iff, length_sortOn]
  exact List.length_pos_iff.mpr h

lemma ordered_sortOn (l : List α) : Ordered key (sortOn key l) :=
  List.pairwise_insertionSort _ l

lemma sortOn_eq_self {l : List α} (h : Ordered key l) : sortOn key l = l :=
  List.Pairwise.insertionSort_eq h

/-- The sorted keys depend on the elements only, not on their order in the list. -/
lemma map_sortOn_perm {l l' : List α} (h : l.Perm l') :
    (sortOn key l).map key = (sortOn key l').map key := by
  have hp : ((sortOn key l).map key).Perm ((sortOn key l').map key) :=
    (((sortOn_perm key l).trans h).trans (sortOn_perm key l').symm).map key
  have ho : ∀ m : List α, ((sortOn key m).map key).Pairwise (· ≤ ·) := fun m =>
    List.pairwise_map.mpr (ordered_sortOn key m)
  exact hp.eq_of_pairwise' (ho l) (ho l')

/-- A list that is sorted already stays as it is. -/
@[simp] lemma sortOn_sortOn (l : List α) : sortOn key (sortOn key l) = sortOn key l :=
  sortOn_eq_self key (ordered_sortOn key l)

/-- Sorting images by what a map keeps of the key. -/
lemma sortOn_map {β : Type*} {key' : β → K} {f : α → β} (h : ∀ a, key' (f a) = key a)
    (l : List α) : sortOn key' (l.map f) = (sortOn key l).map f :=
  (List.map_insertionSort _ _ f l fun a _ b _ => by rw [h, h]).symm

/-- The first image with the largest key is the image of the first such element. -/
lemma argmax_map {β : Type*} {key' : β → K} {f : α → β} (h : ∀ a, key' (f a) = key a)
    (l : List α) : (l.map f).argmax key' = (l.argmax key).map f := by
  induction l using List.reverseRecOn with
  | nil => rfl
  | append_singleton l a ih =>
    rw [List.map_append, List.map_singleton, List.argmax_concat, List.argmax_concat, ih]
    cases hm : l.argmax key with
    | none => rfl
    | some m =>
      simp only [Option.map_some, h]
      split <;> rfl

/-- In a sorted list the element `argmax` takes has the smallest key of those it could take. -/
lemma key_argmax_le {β : Type*} [LinearOrder β] {f : α → β} {l : List α} (h : Ordered key l)
    {m a : α} (hm : l.argmax f = some m) (ha : a ∈ l) (hle : f m ≤ f a) : key m ≤ key a := by
  classical
  have hidx := List.index_of_argmax hm ha hle
  have hm_lt := List.idxOf_lt_length_of_mem (List.argmax_mem hm)
  have ha_lt := List.idxOf_lt_length_of_mem ha
  rcases hidx.eq_or_lt with heq | hlt
  · exact (congrArg key ((List.idxOf_inj (List.argmax_mem hm)).mp heq)).le
  · have hkey := List.pairwise_iff_getElem.mp h _ _ hm_lt ha_lt hlt
    rwa [List.getElem_idxOf hm_lt, List.getElem_idxOf ha_lt] at hkey

/-- The maximum does not depend on the order of the list. -/
lemma max?_perm {l l' : List K} (h : l.Perm l') : l.max? = l'.max? := by
  cases hm : l.max? with
  | none =>
    obtain rfl := List.max?_eq_none_iff.mp hm
    rw [h.nil_eq.symm]
    rfl
  | some m =>
    obtain ⟨hmem, hle⟩ := List.max?_eq_some_iff.mp hm
    exact (List.max?_eq_some_iff.mpr
      ⟨h.mem_iff.mp hmem, fun x hx => hle x (h.mem_iff.mpr hx)⟩).symm

/-- A map that keeps the order takes the maximum to the maximum. -/
lemma max?_map_of_monotone {L : Type*} [LinearOrder L] {f : K → L} (hf : Monotone f)
    (l : List K) : (l.map f).max? = l.max?.map f := by
  cases hm : l.max? with
  | none =>
    obtain rfl := List.max?_eq_none_iff.mp hm
    rfl
  | some m =>
    obtain ⟨hmem, hle⟩ := List.max?_eq_some_iff.mp hm
    refine List.max?_eq_some_iff.mpr ⟨List.mem_map_of_mem hmem, fun y hy => ?_⟩
    obtain ⟨x, hx, rfl⟩ := List.mem_map.mp hy
    exact hf (hle x hx)

/-- The minimum does not depend on the order of the list. -/
lemma min?_perm {l l' : List K} (h : l.Perm l') : l.min? = l'.min? := by
  cases hm : l.min? with
  | none =>
    obtain rfl := List.min?_eq_none_iff.mp hm
    rw [h.nil_eq.symm]
    rfl
  | some m =>
    obtain ⟨hmem, hle⟩ := List.min?_eq_some_iff.mp hm
    exact (List.min?_eq_some_iff.mpr
      ⟨h.mem_iff.mp hmem, fun x hx => hle x (h.mem_iff.mpr hx)⟩).symm

/-- A map that keeps the order takes the minimum to the minimum. -/
lemma min?_map_of_monotone {L : Type*} [LinearOrder L] {f : K → L} (hf : Monotone f)
    (l : List K) : (l.map f).min? = l.min?.map f := by
  cases hm : l.min? with
  | none =>
    obtain rfl := List.min?_eq_none_iff.mp hm
    rfl
  | some m =>
    obtain ⟨hmem, hle⟩ := List.min?_eq_some_iff.mp hm
    refine List.min?_eq_some_iff.mpr ⟨List.mem_map_of_mem hmem, fun y hy => ?_⟩
    obtain ⟨x, hx, rfl⟩ := List.mem_map.mp hy
    exact hf (hle x hx)

/-- The largest key does not depend on the order of the list. -/
lemma argmax_perm {l l' : List α} (h : l.Perm l') :
    (l.argmax key).map key = (l'.argmax key).map key := by
  cases hm : l.argmax key with
  | none =>
    obtain rfl := List.argmax_eq_none.mp hm
    rw [h.nil_eq.symm]
    rfl
  | some m =>
    cases hm' : l'.argmax key with
    | none =>
      obtain rfl := List.argmax_eq_none.mp hm'
      simp [h.eq_nil] at hm
    | some m' =>
      have hle := List.le_of_mem_argmax (h.mem_iff.mp (List.argmax_mem hm)) hm'
      have hge := List.le_of_mem_argmax (h.mem_iff.mpr (List.argmax_mem hm')) hm
      simp [le_antisymm hle hge]

/-- Insertion by key, into the position a stable sort gives. -/
abbrev insertOn (a : α) (l : List α) : List α := l.orderedInsert (fun a b => key a ≤ key b) a

lemma insertOn_first {a : α} {l : List α} (h : ∀ b ∈ l, key a ≤ key b) :
    insertOn key a l = a :: l := by
  cases l with
  | nil => rfl
  | cons b t =>
    exact List.orderedInsert_cons_of_le (fun a b => key a ≤ key b) t (h b (by simp))

lemma insertOn_filter (p : α → Bool) (a : α) {l : List α} (h : Ordered key l) :
    (insertOn key a l).filter p = if p a then insertOn key a (l.filter p) else l.filter p := by
  induction l with
  | nil => cases hp : p a <;> simp [hp]
  | cons b t ih =>
    obtain ⟨hb, ht⟩ := List.pairwise_cons.mp h
    by_cases hab : key a ≤ key b
    · -- `a` goes first, and stays first among the selected
      have hle : ∀ c ∈ b :: t, key a ≤ key c := by
        intro c hc
        rcases List.mem_cons.mp hc with rfl | hc'
        · exact hab
        · exact le_trans hab (hb c hc')
      rw [insertOn_first key hle, insertOn_first key fun c hc => hle c (List.mem_of_mem_filter hc)]
      cases hp : p a <;> simp [hp]
    · have hstep : ∀ m, insertOn key a (b :: m) = b :: insertOn key a m := fun m =>
        List.orderedInsert_of_not_le (r := fun a b => key a ≤ key b) m hab
      rw [hstep, List.filter_cons, ih ht, List.filter_cons]
      cases hp : p a <;> cases hpb : p b <;> simp [hstep]

/-- **Selecting commutes with sorting.** -/
lemma sortOn_filter (p : α → Bool) (l : List α) :
    sortOn key (l.filter p) = (sortOn key l).filter p := by
  induction l with
  | nil => rfl
  | cons a t ih =>
    have hcons : ∀ b m, sortOn key (b :: m) = insertOn key b (sortOn key m) := fun _ _ => rfl
    rw [hcons, insertOn_filter key p a (ordered_sortOn key t), ← ih, List.filter_cons]
    cases p a <;> simp [hcons]

/-- **Sorting keeps the order of equal keys.** -/
lemma filter_key_sortOn (l : List α) (c : K) :
    (sortOn key l).filter (fun a => key a = c) = l.filter fun a => key a = c := by
  rw [← sortOn_filter]
  refine sortOn_eq_self key (List.pairwise_iff_forall_sublist.mpr fun {a b} hab => ?_)
  have hkey : ∀ x ∈ [a, b], key x = c := fun x hx => by
    simpa using (List.mem_filter.mp (hab.subset hx)).2
  rw [hkey a (by simp), hkey b (by simp)]

/-- An ordered list is its part below a threshold followed by the rest. -/
lemma ordered_split {l : List α} (h : Ordered key l) (c : K) :
    l.filter (fun a => key a < c) ++ l.filter (fun a => c ≤ key a) = l := by
  induction l with
  | nil => rfl
  | cons a t ih =>
    obtain ⟨ha, ht⟩ := List.pairwise_cons.mp h
    by_cases hc : key a < c
    · simp [hc, not_le.mpr hc, ih ht]
    · have hc' := not_lt.mp hc
      have hlow : t.filter (fun b => key b < c) = [] := by
        rw [List.filter_eq_nil_iff]
        intro b hb
        simpa using le_trans hc' (ha b hb)
      have hhigh : t.filter (fun b => c ≤ key b) = t := by
        rw [List.filter_eq_self]
        intro b hb
        simpa using le_trans hc' (ha b hb)
      simp [hc, hc', hlow, hhigh]

/-- The first element of an ordered list has the smallest key. -/
lemma key_head_le {l : List α} (h : Ordered key l) {z : α} (hz : l.head? = some z) :
    ∀ a ∈ l, key z ≤ key a := by
  obtain ⟨m, rfl⟩ := List.head?_eq_some_iff.mp hz
  intro a ha
  rcases List.mem_cons.mp ha with rfl | ha
  · exact le_rfl
  · exact (List.pairwise_cons.mp h).1 a ha

/-- The last element of an ordered list has the largest key. -/
lemma key_le_getLast {l : List α} (h : Ordered key l) {z : α} (hz : l.getLast? = some z) :
    ∀ a ∈ l, key a ≤ key z := by
  obtain ⟨m, rfl⟩ := List.getLast?_eq_some_iff.mp hz
  intro a ha
  rcases List.mem_append.mp ha with ha | ha
  · exact (List.pairwise_append.mp h).2.2 a ha z (by simp)
  · rw [List.mem_singleton.mp ha]

/-- The first element with a given image has the smallest key of those that have it. -/
lemma key_getElem_idxOf_le {β : Type*} [DecidableEq β] {f : α → β} {l : List α}
    (h : Ordered key l) {a : α} (ha : a ∈ l) (hi : (l.map f).idxOf (f a) < l.length) :
    key l[(l.map f).idxOf (f a)] ≤ key a := by
  induction l with
  | nil => simp at ha
  | cons b t ih =>
    obtain ⟨hb, ht⟩ := List.pairwise_cons.mp h
    by_cases hf : f b = f a
    · have hzero : ((b :: t).map f).idxOf (f a) = 0 := by simp [hf]
      simp only [hzero, List.getElem_cons_zero]
      exact key_head_le key h rfl a ha
    · have hat : a ∈ t := by
        rcases List.mem_cons.mp ha with rfl | ha
        · exact absurd rfl hf
        · exact ha
      have hsucc : ((b :: t).map f).idxOf (f a) = (t.map f).idxOf (f a) + 1 := by
        rw [List.map_cons, List.idxOf_cons_ne _ hf]
      simp only [hsucc, List.getElem_cons_succ]
      exact ih ht hat _

/-- Of a sorted list `argmin` takes the first element. -/
lemma argmin_eq_head? {l : List α} (h : Ordered key l) : l.argmin key = l.head? := by
  cases l with
  | nil => rfl
  | cons a t =>
    have ha := (List.pairwise_cons.mp h).1
    rw [List.argmin_cons, List.head?_cons]
    cases hm : t.argmin key with
    | none => rfl
    | some m =>
      have hle := ha m (List.argmin_mem hm)
      simp [not_lt.mpr hle]

/-- The first image of a sorted list is that of the smallest element that has one. -/
lemma head?_filterMap {β : Type*} {f : α → Option β} {l : List α} (h : Ordered key l)
    (hne : l.filterMap f ≠ []) : ∃ a ∈ l, (f a).isSome ∧ (l.filterMap f).head? = f a ∧
      ∀ b ∈ l, (f b).isSome → key a ≤ key b := by
  induction l with
  | nil => exact absurd rfl hne
  | cons a t ih =>
    obtain ⟨ha, ht⟩ := List.pairwise_cons.mp h
    cases hf : f a with
    | some y =>
      refine ⟨a, by simp, by simp [hf], by simp [hf], fun b hb _ => ?_⟩
      exact key_head_le key h rfl b hb
    | none =>
      rw [List.filterMap_cons_none hf] at hne ⊢
      obtain ⟨m, hm, hsome, hhead, hmin⟩ := ih ht hne
      refine ⟨m, by simp [hm], hsome, hhead, fun b hb hb' => ?_⟩
      rcases List.mem_cons.mp hb with rfl | hb
      · simp [hf] at hb'
      · exact hmin b hb hb'

/-! ### Distinct keys -/

lemma strict_sortOn {l : List α} (h : (l.map key).Nodup) :
    (sortOn key l).Pairwise fun a b => key a < key b := by
  have hnodup : ((sortOn key l).map key).Nodup :=
    ((sortOn_perm key l).map key).nodup_iff.mpr h
  have hne : (sortOn key l).Pairwise fun a b => key a ≠ key b := List.pairwise_map.mp hnodup
  exact ((ordered_sortOn key l).and hne).imp fun hab => lt_of_le_of_ne hab.1 hab.2

/-- Up to an element, a list with increasing keys holds the elements of no greater key. -/
lemma take_eq_filter {l : List α} (h : l.Pairwise fun a b => key a < key b) {i : ℕ}
    (hi : i < l.length) : l.take (i + 1) = l.filter fun a => key a ≤ key l[i] := by
  induction l generalizing i with
  | nil => simp at hi
  | cons a t ih =>
    obtain ⟨ha, ht⟩ := List.pairwise_cons.mp h
    cases i with
    | zero =>
      have hnil : t.filter (fun b => key b ≤ key a) = [] :=
        List.filter_eq_nil_iff.mpr fun b hb => by simpa using ha b hb
      simp [hnil]
    | succ j =>
      have hj : j < t.length := by simpa using hi
      have hle : key a ≤ key t[j] := (ha _ (List.getElem_mem hj)).le
      rw [List.take_succ_cons, List.getElem_cons_succ, List.filter_cons_of_pos (by simpa using hle),
        ih ht hj]

/-- Lists with increasing keys are equal if they have the same elements. -/
lemma eq_of_mem_iff {l l' : List α} (h : l.Pairwise fun a b => key a < key b)
    (h' : l'.Pairwise fun a b => key a < key b) (hmem : ∀ a, a ∈ l ↔ a ∈ l') : l = l' := by
  have : Std.Irrefl fun a b : α => key a < key b := ⟨fun a => lt_irrefl _⟩
  have : Std.Antisymm fun a b : α => key a < key b := ⟨fun a b hab hba => absurd hab hba.asymm⟩
  exact h.eq_of_mem_iff h' hmem

end CrdbLab.Lib.KeySort
