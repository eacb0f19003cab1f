import Mathlib.Data.List.Basic
import Mathlib.Data.List.TakeWhile

/-!
Text cut at a mark, and the entries of a line of `key=value` parts.

A mark is found at its first occurrence. Among entries of one key the last one counts.
-/

namespace CrdbLab.Lib.Fields

variable {α β : Type*} [DecidableEq α]

/-! ### The text after a mark -/

/-- What follows the first occurrence of the mark, if there is one. -/
def after (mark : List α) : List α → Option (List α)
  | [] => if mark = [] then some [] else none
  | c :: s =>
    if mark.isPrefixOf (c :: s) then some ((c :: s).drop mark.length) else after mark s

lemma after_self_append (mark s : List α) : after mark (mark ++ s) = some s := by
  cases h : mark ++ s with
  | nil =>
    obtain ⟨rfl, rfl⟩ := List.append_eq_nil_iff.mp h
    rfl
  | cons c t =>
    have hp : mark.isPrefixOf (c :: t) = true := by
      rw [← h, List.isPrefixOf_iff_prefix]
      exact List.prefix_append mark s
    rw [after, if_pos hp, ← h, List.drop_left]

/-- A mark that does not start with `c` is not found there. -/
lemma after_cons_of_absent {mark : List α} {c : α} {s : List α} (h : ¬ mark <+: c :: s) :
    after mark (c :: s) = after mark s := by
  rw [after, if_neg (by rwa [List.isPrefixOf_iff_prefix])]

/-- A text without the first sign of the mark stands before it. -/
lemma after_append {c : α} {w : List α} (hw : c ∉ w) (mark s : List α) :
    after (c :: mark) (w ++ (c :: mark ++ s)) = some s := by
  induction w with
  | nil => exact after_self_append (c :: mark) s
  | cons x w ih =>
    have hx : c ≠ x := fun h => hw (by simp [h])
    rw [List.cons_append, after_cons_of_absent fun h => hx (List.cons_prefix_cons.mp h).1]
    exact ih fun h => hw (List.mem_cons_of_mem x h)

/-- A mark is not found across a sign that is not in it, nor in a text that lacks one of its
signs. -/
lemma after_skip {mark w : List α} {c d : α} (hc : c ∉ mark) (hd : d ∈ mark) (hw : d ∉ w)
    (s : List α) : after mark (w ++ c :: s) = after mark s := by
  induction w with
  | nil =>
    refine after_cons_of_absent fun h => ?_
    obtain ⟨x, mark', rfl⟩ := List.exists_cons_of_ne_nil (List.ne_nil_of_mem hd)
    exact hc (by simp [(List.cons_prefix_cons.mp h).1])
  | cons x w ih =>
    rw [List.cons_append, after_cons_of_absent ?_, ih fun h => hw (List.mem_cons_of_mem x h)]
    intro h
    have hpre : x :: w ++ [c] <+: x :: (w ++ c :: s) := ⟨s, by simp⟩
    rcases List.prefix_or_prefix_of_prefix h hpre with h' | h'
    · rcases List.prefix_concat_iff.mp h' with heq | h''
      · exact hc (heq ▸ by simp)
      · exact hw (h''.subset hd)
    · exact hc (h'.subset (by simp))

/-- No mark is found in a text that lacks one of its signs. -/
lemma after_eq_none {mark w : List α} {d : α} (hd : d ∈ mark) (hw : d ∉ w) :
    after mark w = none := by
  induction w with
  | nil => simp [after, List.ne_nil_of_mem hd]
  | cons x w ih =>
    rw [after_cons_of_absent fun h => hw (h.subset hd)]
    exact ih fun h => hw (List.mem_cons_of_mem x h)

/-- The parts of a text are made of its signs. -/
lemma mem_of_mem_splitOn {sep c : α} {s w : List α} (hw : w ∈ s.splitOn sep) (hc : c ∈ w) :
    c ∈ s := by
  induction s generalizing w with
  | nil =>
    rw [List.splitOn_nil, List.mem_singleton] at hw
    rwa [hw] at hc
  | cons x s ih =>
    rw [List.splitOn_cons_eq_if_modifyHead] at hw
    split_ifs at hw with hx
    · rcases List.mem_cons.mp hw with rfl | hw'
      · cases hc
      · exact List.mem_cons_of_mem x (ih hw' hc)
    · obtain ⟨v, vs, hparts⟩ := List.exists_cons_of_ne_nil (List.splitOn_ne_nil sep s)
      rw [hparts, List.modifyHead_cons] at hw
      rcases List.mem_cons.mp hw with rfl | hw'
      · rcases List.mem_cons.mp hc with rfl | hc'
        · exact List.mem_cons_self
        · exact List.mem_cons_of_mem x (ih (hparts ▸ List.mem_cons_self) hc')
      · exact List.mem_cons_of_mem x (ih (hparts ▸ List.mem_cons_of_mem v hw') hc)

/-! ### Entries -/

/-- A part cut at its first `c`. -/
def entry (c : α) (part : List α) : Option (List α × List α) :=
  (after [c] part).map fun v => (part.takeWhile (· ≠ c), v)

lemma takeWhile_of_absent {c : α} {w : List α} (hw : c ∉ w) : w.takeWhile (· ≠ c) = w := by
  refine List.takeWhile_eq_self_iff.mpr fun x hx => ?_
  simpa using fun h : x = c => hw (h ▸ hx)

lemma takeWhile_append_cons {c : α} {w : List α} (hw : c ∉ w) (s : List α) :
    (w ++ c :: s).takeWhile (· ≠ c) = w := by
  have hall : ∀ x ∈ w, decide (x ≠ c) = true := List.takeWhile_eq_self_iff.mp
    (takeWhile_of_absent hw)
  rw [List.takeWhile_append_of_pos hall]
  simp

lemma after_sign {c : α} {w : List α} (hw : c ∉ w) (s : List α) :
    after [c] (w ++ c :: s) = some s :=
  after_append hw [] s

lemma entry_append {c : α} {k : List α} (hk : c ∉ k) (v : List α) :
    entry c (k ++ c :: v) = some (k, v) := by
  rw [entry, after_sign hk, Option.map_some, takeWhile_append_cons hk]

/-- The last value given to a key. -/
def lastOf (k : α) (entries : List (α × β)) : Option β := entries.reverse.lookup k

@[simp] lemma lastOf_nil (k : α) : lastOf k ([] : List (α × β)) = none := rfl

lemma lastOf_cons (k : α) (e : α × β) (entries : List (α × β)) :
    lastOf k (e :: entries) = (lastOf k entries).or (if k = e.1 then some e.2 else none) := by
  obtain ⟨k', v⟩ := e
  rw [lastOf, List.reverse_cons, List.lookup_append, ← lastOf]
  by_cases hk : k = k'
  · simp [hk]
  · simp [List.lookup_cons, beq_false_of_ne hk, hk]

/-- The value of the last part of the line that gives the key one. -/
def field (sep c : α) (k line : List α) : Option (List α) :=
  lastOf k ((line.splitOn sep).filterMap (entry c))

/-- The value that one part gives a key. -/
def fieldOf (c : α) (k part : List α) : Option (List α) :=
  (entry c part).bind fun e => if k = e.1 then some e.2 else none

/-- The value of the last part of the line, but for the first one, that gives the key one. -/
def laterField (sep c : α) (k line : List α) : Option (List α) :=
  lastOf k ((line.splitOn sep).tail.filterMap (entry c))

lemma fieldOf_entry {c : α} {k' : List α} (hk' : c ∉ k') (k v : List α) :
    fieldOf c k (k' ++ c :: v) = if k = k' then some v else none := by
  rw [fieldOf, entry_append hk', Option.bind_some]

lemma lastOf_filterMap_cons (c : α) (k part : List α) (parts : List (List α)) :
    lastOf k ((part :: parts).filterMap (entry c)) =
      (lastOf k (parts.filterMap (entry c))).or (fieldOf c k part) := by
  cases h : entry c part with
  | none => simp [List.filterMap_cons_none h, fieldOf, h]
  | some e => rw [List.filterMap_cons_some h, lastOf_cons, fieldOf, h, Option.bind_some]

variable {sep c : α} {w : List α}

/-- The first part of a line gives its value where no later one does. -/
lemma field_append_cons (hw : sep ∉ w) (k line : List α) :
    field sep c k (w ++ sep :: line) = (field sep c k line).or (fieldOf c k w) := by
  rw [field, List.splitOn_append_cons_self_of_not_mem hw, lastOf_filterMap_cons]
  rfl

lemma field_of_absent (hw : sep ∉ w) (k : List α) : field sep c k w = fieldOf c k w := by
  rw [field, List.splitOn_eq_singleton hw, lastOf_filterMap_cons]
  rfl

/-- A key is not looked for in the first part of a line that is given to another key. -/
lemma field_of_ne {k k' : List α} (hne : k ≠ k') (hsep : sep ∉ k') (hc : c ∉ k') (hcs : c ≠ sep)
    (line : List α) : field sep c k (k' ++ c :: line) = laterField sep c k line := by
  have hpart (v : List α) : fieldOf c k (k' ++ c :: v) = none := by
    rw [fieldOf_entry hc, if_neg hne]
  by_cases hmem : sep ∈ line
  · obtain ⟨v, s, rfl, hv⟩ := List.eq_append_cons_of_mem hmem
    have hw : sep ∉ k' ++ c :: v := by
      simp only [List.mem_append, List.mem_cons, not_or]
      exact ⟨hsep, hcs.symm, hv⟩
    have hline : k' ++ c :: (v ++ sep :: s) = (k' ++ c :: v) ++ sep :: s := by simp
    rw [hline, field_append_cons hw, hpart, Option.or_none, laterField,
      List.splitOn_append_cons_self_of_not_mem hv]
    rfl
  · have hw : sep ∉ k' ++ c :: line := by
      simp only [List.mem_append, List.mem_cons, not_or]
      exact ⟨hsep, hcs.symm, hmem⟩
    rw [field_of_absent hw, hpart, laterField, List.splitOn_eq_singleton hmem]
    rfl

end CrdbLab.Lib.Fields
