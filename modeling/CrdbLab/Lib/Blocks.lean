import Mathlib.Data.List.Chain
import Mathlib.Data.List.Nodup
import Mathlib.Data.List.Dedup
import Mathlib.Data.List.SplitBy

/-!
Splitting a list where a key changes.

Each element is compared with the one before it. On a list made of blocks of one key each, the
split gives the blocks back exactly when no two neighbouring keys count as the same.
-/

namespace CrdbLab.Lib.Blocks

variable {A K : Type} (key : A → K) (apart : K → K → Bool)

/-- Continues with the part begun and the key last seen. -/
def splitFrom (part : List A) (last : K) : List A → List (List A)
  | [] => [part]
  | a :: l =>
    if apart (key a) last then part :: splitFrom [a] (key a) l
    else splitFrom (part ++ [a]) (key a) l

/-- The parts between changes of the key. -/
def split : List A → List (List A)
  | [] => []
  | a :: l => splitFrom key apart [a] (key a) l

/-- Elements of one key. -/
structure Block (key : A → K) where
  mark : K
  elements : List A
  nonempty : elements ≠ []
  same : ∀ a ∈ elements, key a = mark

variable {key apart}

lemma Block.head (b : Block key) : b.elements.head?.map key = some b.mark := by
  obtain ⟨a, l, hb⟩ := List.exists_cons_of_ne_nil b.nonempty
  rw [hb]
  exact congrArg some (b.same a (by simp [hb]))

/-- Elements of the last key join the part. -/
lemma splitFrom_same (hself : ∀ k, apart k k = false) {last : K} {same : List A}
    (hsame : ∀ a ∈ same, key a = last) (part rest : List A) :
    splitFrom key apart part last (same ++ rest) =
      splitFrom key apart (part ++ same) last rest := by
  induction same generalizing part with
  | nil => simp
  | cons a same ih =>
    have ha : key a = last := hsame a (by simp)
    rw [List.cons_append, splitFrom, ha, hself]
    simpa using ih (fun b hb => hsame b (List.mem_cons_of_mem a hb)) (part ++ [a])

/-- A block begins a part or joins the one begun. -/
lemma splitFrom_block (hself : ∀ k, apart k k = false) (b : Block key) (part : List A) (last : K)
    (rest : List A) :
    splitFrom key apart part last (b.elements ++ rest) =
      if apart b.mark last then part :: splitFrom key apart b.elements b.mark rest
      else splitFrom key apart (part ++ b.elements) b.mark rest := by
  obtain ⟨k, elements, hne, hsame⟩ := b
  obtain ⟨a, l, rfl⟩ := List.exists_cons_of_ne_nil hne
  have ha : key a = k := hsame a (by simp)
  have hl : ∀ c ∈ l, key c = k := fun c hc => hsame c (List.mem_cons_of_mem a hc)
  rw [List.cons_append, splitFrom, ha, splitFrom_same hself hl, splitFrom_same hself hl]
  simp

lemma split_block (hself : ∀ k, apart k k = false) (b : Block key) (rest : List A) :
    split key apart (b.elements ++ rest) = splitFrom key apart b.elements b.mark rest := by
  obtain ⟨k, elements, hne, hsame⟩ := b
  obtain ⟨a, l, rfl⟩ := List.exists_cons_of_ne_nil hne
  have ha : key a = k := hsame a (by simp)
  rw [List.cons_append, split, ha,
    splitFrom_same hself fun c hc => hsame c (List.mem_cons_of_mem a hc)]
  rfl

/-- The elements of the blocks in turn. -/
def flat (blocks : List (Block key)) : List A := blocks.flatMap Block.elements

lemma mem_flat {blocks : List (Block key)} {a : A} :
    a ∈ flat blocks ↔ ∃ b ∈ blocks, a ∈ b.elements :=
  List.mem_flatMap

section Lookup

variable [DecidableEq K] {blocks : List (Block key)}

/-- Of parts with different marks, which may be empty, selecting a mark gives its part. -/
lemma filter_flatMap {A B K : Type*} [DecidableEq K] {key : A → K} {mark : B → K}
    {elements : B → List A} {parts : List B} (hsame : ∀ p ∈ parts, ∀ a ∈ elements p, key a = mark p)
    (hnodup : (parts.map mark).Nodup) {p : B} (hp : p ∈ parts) :
    (parts.flatMap elements).filter (fun a => key a = mark p) = elements p := by
  induction parts with
  | nil => simp at hp
  | cons q parts ih =>
    rw [List.map_cons, List.nodup_cons] at hnodup
    have hrest : ∀ q ∈ parts, ∀ a ∈ elements q, key a = mark q := fun q hq =>
      hsame q (List.mem_cons_of_mem _ hq)
    rw [List.flatMap_cons, List.filter_append]
    rcases List.mem_cons.mp hp with rfl | hp
    · have hself : (elements p).filter (fun a => key a = mark p) = elements p :=
        List.filter_eq_self.mpr fun a ha => by simpa using hsame p List.mem_cons_self a ha
      have hother : (parts.flatMap elements).filter (fun a => key a = mark p) = [] := by
        refine List.filter_eq_nil_iff.mpr fun a ha hkey => ?_
        obtain ⟨q, hq, ha⟩ := List.mem_flatMap.mp ha
        refine hnodup.1 (List.mem_map.mpr ⟨q, hq, ?_⟩)
        rw [← hrest q hq a ha]
        exact of_decide_eq_true hkey
      rw [hself, hother, List.append_nil]
    · have hother : (elements q).filter (fun a => key a = mark p) = [] := by
        refine List.filter_eq_nil_iff.mpr fun a ha hkey => ?_
        refine hnodup.1 (List.mem_map.mpr ⟨p, hp, ?_⟩)
        rw [← hsame q List.mem_cons_self a ha]
        exact (of_decide_eq_true hkey).symm
      rw [hother, List.nil_append]
      exact ih hrest hnodup.2 hp

/-- The elements of a key are those of its block. -/
lemma filter_flat (h : (blocks.map Block.mark).Nodup) {b : Block key} (hb : b ∈ blocks) :
    (flat blocks).filter (fun a => key a = b.mark) = b.elements :=
  filter_flatMap (fun c _ => c.same) h hb

/-- The distinct keys are those of the blocks. -/
lemma dedup_flat (h : (blocks.map Block.mark).Nodup) :
    ((flat blocks).map key).dedup = blocks.map Block.mark := by
  induction blocks with
  | nil => rfl
  | cons b blocks ih =>
    rw [List.map_cons, List.nodup_cons] at h
    have hnew : b.mark ∉ (flat blocks).map key := by
      intro hmem
      obtain ⟨a, ha, hkey⟩ := List.mem_map.mp hmem
      obtain ⟨d, hd, ha⟩ := mem_flat.mp ha
      rw [d.same a ha] at hkey
      exact h.1 (hkey ▸ List.mem_map_of_mem hd)
    obtain ⟨k, elements, hne, hsame⟩ := b
    rw [flat, List.flatMap_cons, ← flat, List.map_append]
    -- the repetitions of the block's key go, the last one stays
    have hdrop : ∀ l : List A, l ≠ [] → (∀ a ∈ l, key a = k) →
        (l.map key ++ (flat blocks).map key).dedup = k :: ((flat blocks).map key).dedup := by
      intro l hl hlk
      induction l with
      | nil => exact absurd rfl hl
      | cons a l ihl =>
        have ha : key a = k := hlk a (by simp)
        rw [List.map_cons, List.cons_append, ha]
        by_cases hl' : l = []
        · subst hl'
          exact List.dedup_cons_of_notMem (by simpa using hnew)
        · have hall : ∀ c ∈ l, key c = k := fun c hc => hlk c (List.mem_cons_of_mem a hc)
          obtain ⟨c, m, rfl⟩ := List.exists_cons_of_ne_nil hl'
          rw [List.dedup_cons_of_mem (by simp [hall c (by simp)])]
          exact ihl hl' hall
    rw [hdrop elements hne hsame, ih h.2, List.map_cons]

end Lookup

/-- Neighbouring keys are apart. -/
def Separated (apart : K → K → Bool) (blocks : List (Block key)) : Prop :=
  (blocks.map Block.mark).IsChain fun k k' => apart k' k = true

/-- The keys that begin a part. -/
def starts (apart : K → K → Bool) (last : K) : List (Block key) → List K
  | [] => []
  | b :: blocks =>
    if apart b.mark last then b.mark :: starts apart b.mark blocks else starts apart b.mark blocks

lemma starts_sublist (last : K) (blocks : List (Block key)) :
    (starts apart last blocks).Sublist (blocks.map Block.mark) := by
  induction blocks generalizing last with
  | nil => exact List.Sublist.slnil
  | cons b blocks ih =>
    rw [starts, List.map_cons]
    split
    · exact (ih b.mark).cons_cons b.mark
    · exact (ih b.mark).cons b.mark

/-- When every key begins a part, every neighbour is apart. -/
lemma chain_of_starts {last : K} {blocks : List (Block key)}
    (h : starts apart last blocks = blocks.map Block.mark) :
    (last :: blocks.map Block.mark).IsChain fun k k' => apart k' k = true := by
  induction blocks generalizing last with
  | nil => exact List.isChain_singleton last
  | cons b blocks ih =>
    rw [starts, List.map_cons] at h
    split at h
    · next hap =>
      have htail := List.tail_eq_of_cons_eq h
      exact List.IsChain.cons_cons hap (ih htail)
    · have hsub : (starts apart b.mark blocks).Sublist (blocks.map Block.mark) :=
        starts_sublist b.mark blocks
      rw [h] at hsub
      exact absurd hsub.length_le (by simp)

/-- The first elements of the parts have the keys that begin one. -/
lemma heads_splitFrom (hself : ∀ k, apart k k = false) (blocks : List (Block key)) {part : List A}
    (hpart : part ≠ []) (last : K) :
    (splitFrom key apart part last (flat blocks)).map (fun p => p.head?.map key) =
      part.head?.map key :: (starts apart last blocks).map some := by
  induction blocks generalizing part last with
  | nil => rfl
  | cons b blocks ih =>
    rw [flat, List.flatMap_cons, splitFrom_block hself, starts]
    split
    · rw [List.map_cons, ← flat, ih b.nonempty, b.head]
      rfl
    · obtain ⟨c, m, rfl⟩ := List.exists_cons_of_ne_nil hpart
      rw [← flat, ih (by simp)]
      rfl

/-- Separated blocks are the parts. -/
lemma splitFrom_flat (hself : ∀ k, apart k k = false) {last : K} {blocks : List (Block key)}
    (h : (last :: blocks.map Block.mark).IsChain fun k k' => apart k' k = true) (part : List A) :
    splitFrom key apart part last (flat blocks) = part :: blocks.map Block.elements := by
  induction blocks generalizing last part with
  | nil => rfl
  | cons b blocks ih =>
    rw [List.map_cons, List.isChain_cons_cons] at h
    rw [flat, List.flatMap_cons, splitFrom_block hself, if_pos h.1, ← flat, ih h.2]
    rfl

theorem split_flat (hself : ∀ k, apart k k = false) {blocks : List (Block key)}
    (h : Separated apart blocks) :
    split key apart (flat blocks) = blocks.map Block.elements := by
  cases blocks with
  | nil => rfl
  | cons b blocks =>
    rw [flat, List.flatMap_cons, split_block hself]
    exact splitFrom_flat hself h b.elements

/-- Where the keys are distinct and each begins a part, the blocks are separated. -/
theorem separated_of_heads (hself : ∀ k, apart k k = false) {blocks : List (Block key)}
    (hnodup : (blocks.map Block.mark).Nodup)
    (h : ∀ b ∈ blocks, ∃ part ∈ split key apart (flat blocks), part.head?.map key = some b.mark) :
    Separated apart blocks := by
  cases blocks with
  | nil => exact List.isChain_nil
  | cons b blocks =>
    refine chain_of_starts ((starts_sublist b.mark blocks).eq_of_length_le ?_)
    have hheads : (split key apart (flat (b :: blocks))).map (fun p => p.head?.map key) =
        some b.mark :: (starts apart b.mark blocks).map some := by
      rw [flat, List.flatMap_cons, split_block hself, ← flat,
        heads_splitFrom hself blocks b.nonempty, b.head]
    rw [List.map_cons, List.nodup_cons] at hnodup
    -- each later key is a head, and the first part's head is not among them
    refine hnodup.2.length_le_of_subset fun k hk => ?_
    obtain ⟨c, hc, rfl⟩ := List.mem_map.mp hk
    obtain ⟨part, hpart, hk⟩ := h c (List.mem_cons_of_mem b hc)
    have hmem : some c.mark ∈
        (split key apart (flat (b :: blocks))).map fun p => p.head?.map key :=
      List.mem_map.mpr ⟨part, hpart, hk⟩
    rw [hheads] at hmem
    rcases List.mem_cons.mp hmem with heq | hmem
    · refine absurd ?_ hnodup.1
      rw [← Option.some.inj heq]
      exact List.mem_map_of_mem hc
    · simpa using hmem

/-! ### Neighbours -/

/-- No neighbours in the run count as different. -/
def Unbroken (key : A → K) (apart : K → K → Bool) (run : List A) : Prop :=
  run.IsChain fun a b => apart (key b) (key a) = false

/-- A part begins here: the element is the first, or apart from the one before it. -/
def Opens (key : A → K) (apart : K → K → Bool) (before : List A) (a : A) : Prop :=
  ∀ p ∈ before.getLast?, apart (key a) (key p) = true

lemma splitFrom_eq_loop (done : List (List A)) (part : List A) (a : A) (l : List A) :
    done.reverse ++ splitFrom key apart (part.reverse ++ [a]) (key a) l =
      List.splitBy.loop (fun a b => !apart (key b) (key a)) l a part done := by
  induction l generalizing done part a with
  | nil => simp [splitFrom, List.splitBy.loop]
  | cons b l ih =>
    rw [splitFrom, List.splitBy.loop]
    split
    · next h =>
      rw [h]
      have hrest := ih ((a :: part).reverse :: done) [] b
      simpa using hrest
    · next h =>
      rw [Bool.not_eq_true] at h
      rw [h]
      have hrest := ih done (a :: part) b
      simpa using hrest

lemma split_eq_splitBy (l : List A) :
    split key apart l = l.splitBy fun a b => !apart (key b) (key a) := by
  cases l with
  | nil => rfl
  | cons a l => exact splitFrom_eq_loop [] [] a l

theorem flatten_split (l : List A) : (split key apart l).flatten = l := by
  rw [split_eq_splitBy, List.flatten_splitBy]

theorem ne_nil_of_mem_split {l part : List A} (h : part ∈ split key apart l) : part ≠ [] := by
  rw [split_eq_splitBy] at h
  exact List.ne_nil_of_mem_splitBy h

lemma unbroken_of_mem_split {l part : List A} (h : part ∈ split key apart l) :
    Unbroken key apart part := by
  rw [split_eq_splitBy] at h
  exact (List.isChain_of_mem_splitBy h).imp fun a b hab => by simpa using hab

/-- Where a part opens, the list is split. -/
lemma split_append {before : List A} {a : A} (h : Opens key apart before a) (after : List A) :
    split key apart (before ++ a :: after) =
      split key apart before ++ split key apart (a :: after) := by
  simp only [split_eq_splitBy]
  refine List.splitBy_append_cons after fun p hp => ?_
  rw [h p hp]
  rfl

/-- The run at the start of a list stays in one part. -/
lemma splitFrom_unbroken {part : List A} {a : A} {run : List A} (h : Unbroken key apart (a :: run))
    (after : List A) :
    ∃ more parts, splitFrom key apart part (key a) (run ++ after) =
      (part ++ run ++ more) :: parts := by
  induction run generalizing part a with
  | nil =>
    induction after generalizing part a with
    | nil => exact ⟨[], [], by simp [splitFrom]⟩
    | cons b after ih =>
      rw [List.nil_append, splitFrom]
      split
      · exact ⟨[], splitFrom key apart [b] (key b) after, by simp⟩
      · obtain ⟨more, parts, hrest⟩ := @ih (part ++ [b]) b (List.isChain_singleton b)
        refine ⟨b :: more, parts, ?_⟩
        rw [List.nil_append] at hrest
        rw [hrest]
        simp
  | cons b run ih =>
    rw [Unbroken, List.isChain_cons_cons] at h
    obtain ⟨more, parts, hrest⟩ := @ih (part ++ [b]) b h.2
    refine ⟨more, parts, ?_⟩
    rw [List.cons_append, splitFrom, if_neg (by simp [h.1]), hrest]
    simp

/-- Each part opens where it stands. -/
lemma exists_of_mem_split {l part : List A} (h : part ∈ split key apart l) :
    ∃ before a run after, part = a :: run ∧ l = before ++ a :: run ++ after ∧
      Opens key apart before a := by
  obtain ⟨a, run, rfl⟩ := List.exists_cons_of_ne_nil (ne_nil_of_mem_split h)
  obtain ⟨done, rest, hparts⟩ := List.append_of_mem h
  have hl : l = done.flatten ++ a :: run ++ rest.flatten := by
    have hflat : (split key apart l).flatten = l := flatten_split l
    rw [← hflat, hparts]
    simp
  refine ⟨done.flatten, a, run, rest.flatten, rfl, hl, fun p hp => ?_⟩
  rcases List.eq_nil_or_concat done with rfl | ⟨earlier, last, rfl⟩
  · simp at hp
  · -- the part before ends with the element before
    have hchain := List.isChain_getLast_head_splitBy (fun a b => !apart (key b) (key a)) l
    rw [← split_eq_splitBy, hparts, List.concat_eq_append, List.append_assoc,
      List.isChain_append] at hchain
    have hborder := hchain.2.1
    rw [List.singleton_append, List.isChain_cons_cons] at hborder
    obtain ⟨hlast, _, hap⟩ := hborder.1
    have hp' : p = last.getLast hlast := by
      rw [List.concat_eq_append, List.flatten_append, List.flatten_singleton,
        List.getLast?_append_of_ne_nil _ hlast, List.getLast?_eq_getLast_of_ne_nil hlast] at hp
      exact (Option.some.inj hp).symm
    rw [hp']
    simpa using hap

/-- **What the parts have in common with their first elements**, said of the list. -/
theorem forall_split_iff {l : List A} {P : A → A → Prop} (hrefl : ∀ a, P a a) :
    (∀ part ∈ split key apart l, ∀ a ∈ part.head?, ∀ b ∈ part, P a b) ↔
      ∀ before a run after, l = before ++ a :: run ++ after → Opens key apart before a →
        Unbroken key apart (a :: run) → ∀ b ∈ run, P a b := by
  constructor
  · intro h before a run after hl hopens hunbroken b hb
    obtain ⟨more, parts, hpart⟩ := @splitFrom_unbroken _ _ key apart [a] a run hunbroken after
    have hsplit : split key apart l =
        split key apart before ++ ([a] ++ run ++ more) :: parts := by
      rw [hl, List.append_assoc, List.cons_append, split_append hopens, split, hpart]
    exact h ([a] ++ run ++ more) (by simp [hsplit]) a rfl b (by simp [hb])
  · intro h part hpart a ha b hb
    obtain ⟨before, c, run, after, rfl, hl, hopens⟩ := exists_of_mem_split hpart
    obtain rfl : c = a := Option.some.inj ha
    rcases List.mem_cons.mp hb with rfl | hb
    · exact hrefl b
    · exact h before c run after hl hopens (unbroken_of_mem_split hpart) b hb

/-- Splitting the images under a map that keeps the keys. -/
lemma split_map {B : Type} (f : B → A) (l : List B) :
    split key apart (l.map f) = (split (key ∘ f) apart l).map fun part => part.map f := by
  have hfrom : ∀ (l part : List B) (last : K),
      splitFrom key apart (part.map f) last (l.map f) =
        (splitFrom (key ∘ f) apart part last l).map fun part => part.map f := by
    intro l
    induction l with
    | nil =>
      intro part last
      rfl
    | cons b l ih =>
      intro part last
      rw [List.map_cons, splitFrom, splitFrom, Function.comp_apply]
      split
      · rw [List.map_cons, ← ih]
        rfl
      · rw [← ih]
        simp
  cases l with
  | nil => rfl
  | cons b l => exact hfrom l [b] (key (f b))

end CrdbLab.Lib.Blocks
