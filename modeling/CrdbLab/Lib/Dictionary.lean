import Mathlib.Algebra.BigOperators.Group.List.Basic
import Mathlib.Algebra.GroupWithZero.Nat
import Mathlib.Data.Finset.Card
import Mathlib.Data.List.Induction
import Mathlib.Data.List.Nodup

/-!
Dictionaries.

The entries stand in the order in which their keys were first set, and no key stands twice.
A key that is set again keeps its place.
-/

namespace CrdbLab.Lib.Dictionary

variable {κ ν μ : Type*}

/-- Entries with distinct keys. -/
structure Dict (κ ν : Type*) where
  entries : List (κ × ν)
  nodup : (entries.map Prod.fst).Nodup
  deriving DecidableEq, Repr

namespace Dict

@[ext] lemma ext {d d' : Dict κ ν} (h : d.entries = d'.entries) : d = d' := by
  cases d
  cases d'
  cases h
  rfl

def empty : Dict κ ν := ⟨[], List.nodup_nil⟩

def values (d : Dict κ ν) : List ν := d.entries.map Prod.snd

def size (d : Dict κ ν) : ℕ := d.entries.length

@[simp] lemma entries_empty : (empty : Dict κ ν).entries = [] := rfl

@[simp] lemma length_values (d : Dict κ ν) : d.values.length = d.size := List.length_map ..

lemma mem_values {d : Dict κ ν} {v : ν} : v ∈ d.values ↔ ∃ k, (k, v) ∈ d.entries := by
  simp [values]

lemma eq_of_mem {d : Dict κ ν} {k : κ} {v v' : ν} (h : (k, v) ∈ d.entries)
    (h' : (k, v') ∈ d.entries) : v = v' :=
  congrArg Prod.snd (List.inj_on_of_nodup_map d.nodup h h' rfl)

/-! ### Comprehensions -/

/-- The entries that a comprehension keeps, with what it makes of their values. -/
def filterMap (f : κ → ν → Option μ) (d : Dict κ ν) : Dict κ μ where
  entries := d.entries.filterMap fun e => (f e.1 e.2).map fun v => (e.1, v)
  nodup := by
    have hkeys : ((d.entries.filterMap fun e => (f e.1 e.2).map fun v => (e.1, v)).map
        Prod.fst).Sublist (d.entries.map Prod.fst) := by
      rw [List.map_filterMap]
      induction d.entries with
      | nil => exact List.Sublist.slnil
      | cons e l ih =>
        cases hf : f e.1 e.2 with
        | none =>
          rw [List.filterMap_cons_none (by simp [hf]), List.map_cons]
          exact ih.cons e.1
        | some v =>
          rw [List.filterMap_cons_some (b := e.1) (by simp [hf]), List.map_cons]
          exact ih.cons_cons e.1
    exact d.nodup.sublist hkeys

def filter (p : κ → ν → Bool) (d : Dict κ ν) : Dict κ ν where
  entries := d.entries.filter fun e => p e.1 e.2
  nodup := d.nodup.sublist (List.filter_sublist.map Prod.fst)

lemma mem_entries_filter {p : κ → ν → Bool} {d : Dict κ ν} {e : κ × ν} :
    e ∈ (d.filter p).entries ↔ e ∈ d.entries ∧ p e.1 e.2 = true :=
  List.mem_filter

variable [DecidableEq κ]

def get? (d : Dict κ ν) (k : κ) : Option ν := d.entries.lookup k

lemma get?_eq_some_iff {d : Dict κ ν} {k : κ} {v : ν} :
    d.get? k = some v ↔ (k, v) ∈ d.entries := by
  rw [get?, List.lookup_eq_some_iff]
  constructor
  · rintro ⟨l, l', hentries, -⟩
    simp [hentries]
  · intro hmem
    obtain ⟨l, l', hentries⟩ := List.append_of_mem hmem
    refine ⟨l, l', hentries, fun e he => ?_⟩
    have hnodup := d.nodup
    rw [hentries, List.map_append, List.map_cons] at hnodup
    have hne : k ∉ l.map Prod.fst := fun hk =>
      List.disjoint_of_nodup_append hnodup hk (by simp)
    simpa using fun heq : k = e.1 => hne (heq ▸ List.mem_map_of_mem he)

/-- What a comprehension holds for a key. -/
lemma get?_filterMap (f : κ → ν → Option μ) (d : Dict κ ν) (k : κ) :
    (d.filterMap f).get? k = (d.get? k).bind (f k) := by
  refine Option.ext fun v => ?_
  rw [get?_eq_some_iff, Option.bind_eq_some_iff]
  simp only [filterMap, List.mem_filterMap, Option.map_eq_some_iff, Prod.mk.injEq,
    get?_eq_some_iff]
  constructor
  · rintro ⟨⟨k', w⟩, hmem, v', hf, rfl, rfl⟩
    exact ⟨w, hmem, hf⟩
  · rintro ⟨w, hmem, hf⟩
    exact ⟨(k, w), hmem, v, hf, rfl, rfl⟩

lemma get?_eq_none {d : Dict κ ν} {k : κ} (h : k ∉ d.entries.map Prod.fst) : d.get? k = none :=
  Option.eq_none_iff_forall_ne_some.mpr fun _ hv =>
    h (List.mem_map_of_mem (get?_eq_some_iff.mp hv))

lemma count_flatMap_replicate {ks : List κ} (h : ks.Nodup) (m : ℕ) (k : κ) :
    (ks.flatMap (List.replicate m)).count k = if k ∈ ks then m else 0 := by
  induction ks with
  | nil => rfl
  | cons a ks ih =>
    obtain ⟨ha, hks⟩ := List.nodup_cons.mp h
    rw [List.flatMap_cons, List.count_append, ih hks, List.count_replicate]
    by_cases hk : a = k
    · subst hk
      simp [ha]
    · simp [hk, Ne.symm hk]

/-- What is looked up for keys that stand as often each is what the entries make, as often. -/
lemma filterMap_get?_perm {d : Dict κ ν} {m : ℕ} {ks : List κ}
    (h : ∀ e ∈ d.entries, ks.count e.1 = m) (f : κ → ν → μ) :
    (ks.filterMap fun k => (d.get? k).map (f k)).Perm
      ((d.entries.map fun e => f e.1 e.2).flatMap (List.replicate m)) := by
  have hkeys : (ks.filter fun k => k ∈ d.entries.map Prod.fst).Perm
      ((d.entries.map Prod.fst).flatMap (List.replicate m)) := by
    refine List.perm_iff_count.mpr fun k => ?_
    rw [count_flatMap_replicate d.nodup]
    split_ifs with hk
    · obtain ⟨e, he, rfl⟩ := List.mem_map.mp hk
      rw [List.count_filter (by simpa using hk), h e he]
    · exact List.count_eq_zero.mpr fun hmem => hk (by simpa using (List.mem_filter.mp hmem).2)
  have hfilter : (ks.filter fun k => k ∈ d.entries.map Prod.fst).filterMap
      (fun k => (d.get? k).map (f k)) = ks.filterMap fun k => (d.get? k).map (f k) := by
    rw [List.filterMap_filter]
    refine List.filterMap_congr fun k _ => ?_
    split_ifs with hk
    · rfl
    · rw [get?_eq_none (by simpa using hk)]
      rfl
  have hlookup : ∀ e ∈ d.entries, d.get? e.1 = some e.2 := fun e he => get?_eq_some_iff.mpr he
  refine (hfilter ▸ hkeys.filterMap _).trans (List.Perm.of_eq ?_)
  rw [List.filterMap_flatMap, List.flatMap_map, List.flatMap_map]
  refine List.flatMap_congr fun e he => ?_
  rw [List.filterMap_replicate_of_some]
  rw [hlookup e he]
  rfl

/-- The keys. -/
def keys (d : Dict κ ν) : Finset κ := (d.entries.map Prod.fst).toFinset

lemma mem_keys {d : Dict κ ν} {k : κ} : k ∈ d.keys ↔ ∃ v, (k, v) ∈ d.entries := by
  simp [keys]

@[simp] lemma card_keys (d : Dict κ ν) : d.keys.card = d.size := by
  rw [keys, List.toFinset_card_of_nodup d.nodup, List.length_map, size]

/-- Without a key. -/
def erase (d : Dict κ ν) (k : κ) : Dict κ ν := d.filter fun k' _ => k' ≠ k

lemma mem_entries_erase {d : Dict κ ν} {k : κ} {e : κ × ν} :
    e ∈ (d.erase k).entries ↔ e ∈ d.entries ∧ e.1 ≠ k := by
  simp [erase, mem_entries_filter]

/-! ### Setting keys -/

/-- The entries after `d[k] = v`. -/
def setEntry (entries : List (κ × ν)) (k : κ) (v : ν) : List (κ × ν) :=
  if k ∈ entries.map Prod.fst then entries.map fun e => if e.1 = k then (k, v) else e
  else entries ++ [(k, v)]

lemma keys_setEntry (entries : List (κ × ν)) (k : κ) (v : ν) :
    (setEntry entries k v).map Prod.fst =
      if k ∈ entries.map Prod.fst then entries.map Prod.fst
      else entries.map Prod.fst ++ [k] := by
  unfold setEntry
  split
  · rw [List.map_map]
    refine List.map_congr_left fun e _ => ?_
    by_cases he : e.1 = k <;> simp [he]
  · simp

/-- `d[k] = v`. -/
def set (d : Dict κ ν) (k : κ) (v : ν) : Dict κ ν where
  entries := setEntry d.entries k v
  nodup := by
    rw [keys_setEntry]
    split
    · exact d.nodup
    · next hnew => exact d.nodup.append (List.nodup_singleton k) (by simpa using hnew)

/-- Entries set in turn, so that of those with one key the last counts. -/
def ofList (l : List (κ × ν)) : Dict κ ν := l.foldl (fun d e => d.set e.1 e.2) empty

lemma mem_entries_set {d : Dict κ ν} {k : κ} {v : ν} {e : κ × ν}
    (h : e ∈ (d.set k v).entries) : e = (k, v) ∨ e ∈ d.entries := by
  change e ∈ setEntry d.entries k v at h
  unfold setEntry at h
  split at h
  · obtain ⟨e', he', rfl⟩ := List.mem_map.mp h
    split
    · exact Or.inl rfl
    · exact Or.inr he'
  · rcases List.mem_append.mp h with h | h
    · exact Or.inr h
    · exact Or.inl (List.mem_singleton.mp h)

/-- What a key holds after another or the same one was set. -/
lemma get?_set (d : Dict κ ν) (k k' : κ) (v : ν) :
    (d.set k v).get? k' = if k' = k then some v else d.get? k' := by
  have hmem : (k, v) ∈ (d.set k v).entries := by
    change (k, v) ∈ setEntry d.entries k v
    unfold setEntry
    split
    · next h =>
      obtain ⟨e, he, hk⟩ := List.mem_map.mp h
      exact List.mem_map.mpr ⟨e, he, by simp [hk]⟩
    · simp
  split
  · next h =>
    subst h
    exact get?_eq_some_iff.mpr hmem
  · next h =>
    ext x
    rw [get?_eq_some_iff, get?_eq_some_iff]
    change (k', x) ∈ setEntry d.entries k v ↔ _
    unfold setEntry
    split
    · -- the other entries stay
      rw [List.mem_map]
      constructor
      · rintro ⟨e, he, heq⟩
        by_cases hk : e.1 = k
        · rw [if_pos hk] at heq
          exact absurd (congrArg Prod.fst heq).symm h
        · rw [if_neg hk] at heq
          exact heq ▸ he
      · exact fun he => ⟨(k', x), he, by simp [h]⟩
    · simp [h]

lemma entries_set_ne_nil (d : Dict κ ν) (k : κ) (v : ν) : (d.set k v).entries ≠ [] := by
  change setEntry d.entries k v ≠ []
  unfold setEntry
  split
  · next hmem =>
    rw [ne_eq, List.map_eq_nil_iff]
    rintro hnil
    simp [hnil] at hmem
  · simp

lemma ofList_append_singleton (l : List (κ × ν)) (e : κ × ν) :
    ofList (l ++ [e]) = (ofList l).set e.1 e.2 := by
  simp [ofList]

/-- Every entry was set. -/
lemma mem_of_mem_ofList {l : List (κ × ν)} {e : κ × ν} (h : e ∈ (ofList l).entries) : e ∈ l := by
  induction l using List.reverseRecOn with
  | nil => simp [ofList] at h
  | append_singleton l e' ih =>
    rw [ofList_append_singleton] at h
    rcases mem_entries_set h with rfl | h
    · simp
    · simp [ih h]

lemma entries_ofList_eq_nil_iff {l : List (κ × ν)} : (ofList l).entries = [] ↔ l = [] := by
  induction l using List.reverseRecOn with
  | nil => simp [ofList]
  | append_singleton l e _ =>
    rw [ofList_append_singleton]
    exact iff_of_false (entries_set_ne_nil _ _ _) (by simp)

/-- Entries with distinct keys stay as they are. -/
lemma entries_ofList {l : List (κ × ν)} (h : (l.map Prod.fst).Nodup) :
    (ofList l).entries = l := by
  have hset : ∀ (d : Dict κ ν) (l : List (κ × ν)),
      (d.entries.map Prod.fst ++ l.map Prod.fst).Nodup →
      (l.foldl (fun d e => d.set e.1 e.2) d).entries = d.entries ++ l := by
    intro d l
    induction l generalizing d with
    | nil => simp
    | cons e l ih =>
      intro hnodup
      have hnew : e.1 ∉ d.entries.map Prod.fst := fun hmem =>
        List.disjoint_of_nodup_append hnodup hmem (by simp)
      have hentries : (d.set e.1 e.2).entries = d.entries ++ [e] := if_neg hnew
      rw [List.foldl_cons, ih, hentries]
      · simp
      · simpa [hentries] using hnodup
  exact hset empty l h

/-! ### Lists by key -/

/-- `d.setdefault(k, []).append(v)`. -/
def push (d : Dict κ (List ν)) (k : κ) (v : ν) : Dict κ (List ν) :=
  d.set k ((d.get? k).getD [] ++ [v])

/-- The values of each key, in order. -/
def collect (l : List (κ × ν)) : Dict κ (List ν) := l.foldl (fun d e => d.push e.1 e.2) empty

lemma collect_append_singleton (l : List (κ × ν)) (e : κ × ν) :
    collect (l ++ [e]) = (collect l).push e.1 e.2 := by
  simp [collect]

/-- What is collected for a key: its values, if it has any. -/
lemma get?_collect (l : List (κ × ν)) (k : κ) :
    (collect l).get? k =
      if k ∈ l.map Prod.fst then some ((l.filter fun e => e.1 = k).map Prod.snd) else none := by
  induction l using List.reverseRecOn with
  | nil => rfl
  | append_singleton l e ih =>
    rw [collect_append_singleton, push, get?_set, List.filter_append, List.map_append]
    by_cases hk : k = e.1
    · subst hk
      rw [if_pos rfl, if_pos (by simp), ih]
      split
      · simp
      · next h =>
        have hnone : l.filter (fun e' => e'.1 = e.1) = [] :=
          List.filter_eq_nil_iff.mpr fun e' he' heq =>
            h (List.mem_map.mpr ⟨e', he', of_decide_eq_true heq⟩)
        simp [hnone]
    · have hne : ¬ e.1 = k := fun h => hk h.symm
      have hmem : k ∈ l.map Prod.fst ++ [e].map Prod.fst ↔ k ∈ l.map Prod.fst := by simp [hk]
      rw [if_neg hk, ih, List.filter_cons_of_neg (by simpa using hne)]
      simp only [hmem, List.filter_nil, List.append_nil]

/-! ### Counting -/

/-- `d[k] = d.get(k, 0) + 1`. -/
def bump (d : Dict κ ℕ) (k : κ) : Dict κ ℕ := d.set k ((d.get? k).getD 0 + 1)

/-- The keys counted in turn. -/
def countAll (d : Dict κ ℕ) (ks : List κ) : Dict κ ℕ := ks.foldl bump d

lemma countAll_append_singleton (d : Dict κ ℕ) (ks : List κ) (k : κ) :
    countAll d (ks ++ [k]) = (countAll d ks).bump k := by
  simp [countAll]

/-- A key holds what it held and how often it was counted. -/
lemma getD_countAll (d : Dict κ ℕ) (ks : List κ) (k : κ) :
    ((countAll d ks).get? k).getD 0 = (d.get? k).getD 0 + ks.count k := by
  induction ks using List.reverseRecOn with
  | nil => rfl
  | append_singleton ks k' ih =>
    rw [countAll_append_singleton, bump, get?_set, List.count_append, List.count_singleton]
    by_cases hk : k = k'
    · subst hk
      rw [if_pos rfl, Option.getD_some, ih, if_pos (beq_self_eq_true k)]
      omega
    · rw [if_neg hk, ih, if_neg (by simpa using Ne.symm hk), Nat.add_zero]

/-- A key that is there already keeps its place. -/
lemma keys_set_of_mem {d : Dict κ ν} {k : κ} (h : k ∈ d.entries.map Prod.fst) (v : ν) :
    (d.set k v).entries.map Prod.fst = d.entries.map Prod.fst :=
  (keys_setEntry d.entries k v).trans (if_pos h)

lemma keys_countAll {d : Dict κ ℕ} {ks : List κ} (h : ∀ k ∈ ks, k ∈ d.entries.map Prod.fst) :
    (countAll d ks).entries.map Prod.fst = d.entries.map Prod.fst := by
  induction ks using List.reverseRecOn with
  | nil => rfl
  | append_singleton ks k ih =>
    have hkeys := ih fun k' hk' => h k' (List.mem_append_left _ hk')
    have hmem : k ∈ (countAll d ks).entries.map Prod.fst := hkeys ▸ h k (by simp)
    rw [countAll_append_singleton, bump, keys_set_of_mem hmem, hkeys]

/-- The entries are the keys with what is looked up for them. -/
lemma entries_eq_map [Inhabited ν] (d : Dict κ ν) :
    d.entries = (d.entries.map Prod.fst).map fun k => (k, (d.get? k).getD default) := by
  rw [List.map_map]
  conv_lhs => rw [← List.map_id d.entries]
  refine List.map_congr_left fun e he => ?_
  have hlookup : d.get? e.1 = some e.2 := get?_eq_some_iff.mpr he
  simp [hlookup]

/-- **Counting does not depend on the order** of keys that all have their place. -/
lemma countAll_perm {d : Dict κ ℕ} {ks ks' : List κ} (h : ks'.Perm ks)
    (hmem : ∀ k ∈ ks, k ∈ d.entries.map Prod.fst) : countAll d ks' = countAll d ks := by
  have hkeys := keys_countAll hmem
  have hkeys' := keys_countAll fun k hk => hmem k (h.mem_iff.mp hk)
  have hget : ∀ k, ((countAll d ks').get? k).getD 0 = ((countAll d ks).get? k).getD 0 := by
    intro k
    rw [getD_countAll, getD_countAll, h.count_eq]
  refine ext ?_
  rw [entries_eq_map, entries_eq_map (countAll d ks), hkeys, hkeys']
  exact List.map_congr_left fun k _ => congrArg (Prod.mk k) (hget k)

end Dict

end CrdbLab.Lib.Dictionary
