import Mathlib.Data.List.Basic

/-!
Text cut into lines.

Any character of a class ends a line, and two given ones after each other end it once. What
stands behind the last end is a line if it is not empty, so that a text which ends a line comes
apart from what is written behind it.
-/

namespace CrdbLab.Lib.Lines

variable {α : Type*} [DecidableEq α] (isBreak : α → Bool) (cr lf : α)

/-- Goes on with the line read so far; after `cr` a following `lf` ends no line. -/
def splitLinesFrom (line : List α) (afterCr : Bool) : List α → List (List α)
  | [] => if line = [] then [] else [line]
  | c :: s =>
    if afterCr ∧ c = lf then splitLinesFrom [] false s
    else if isBreak c then line :: splitLinesFrom [] (c = cr) s
    else splitLinesFrom (line ++ [c]) false s

def splitLines (s : List α) : List (List α) := splitLinesFrom isBreak cr lf [] false s

/-- The text is empty or ends a line. -/
def Complete (s : List α) : Prop := ∀ c ∈ s.getLast?, isBreak c = true

omit [DecidableEq α] in
instance (s : List α) : Decidable (Complete isBreak s) :=
  inferInstanceAs (Decidable (∀ c ∈ s.getLast?, isBreak c = true))

variable {isBreak cr lf}

omit [DecidableEq α] in
lemma Complete.tail {c : α} {s : List α} (h : Complete isBreak (c :: s)) : Complete isBreak s := by
  intro d hd
  cases s with
  | nil => cases hd
  | cons e s => exact h d (by rwa [List.getLast?_cons_cons])

/-- Where no `lf` comes first, it does not matter what stood before. -/
lemma splitLinesFrom_afterCr {s : List α} (h : s.head? ≠ some lf) (line : List α) (afterCr : Bool) :
    splitLinesFrom isBreak cr lf line afterCr s = splitLinesFrom isBreak cr lf line false s := by
  cases s with
  | nil => rfl
  | cons c s =>
    have hc : c ≠ lf := fun hc => h (congrArg some hc)
    simp [splitLinesFrom, hc]

/-- A text without a break is read into the line. -/
lemma splitLinesFrom_append_of_unbroken {w : List α} (hw : ∀ c ∈ w, isBreak c = false)
    (s line : List α) :
    splitLinesFrom isBreak cr lf line false (w ++ s) =
      splitLinesFrom isBreak cr lf (line ++ w) false s := by
  induction w generalizing line with
  | nil => rw [List.nil_append, List.append_nil]
  | cons c w ih =>
    have hc : isBreak c = false := hw c List.mem_cons_self
    rw [List.cons_append, splitLinesFrom, if_neg (by simp), if_neg (by simp [hc]),
      ih fun d hd => hw d (List.mem_cons_of_mem c hd)]
    rw [List.append_assoc, List.singleton_append]

lemma splitLines_line {w : List α} {nl : α} (hw : ∀ c ∈ w, isBreak c = false)
    (hnl : isBreak nl = true) (hcr : nl ≠ cr) (s : List α) :
    splitLines isBreak cr lf (w ++ nl :: s) = w :: splitLines isBreak cr lf s := by
  rw [splitLines, splitLinesFrom_append_of_unbroken hw, List.nil_append, splitLinesFrom,
    if_neg (by simp), if_pos hnl, decide_eq_false hcr, splitLines]

lemma splitLinesFrom_append {a b : List α} (hne : a ≠ []) (ha : Complete isBreak a)
    (hb : b.head? ≠ some lf) (line : List α) (afterCr : Bool) :
    splitLinesFrom isBreak cr lf line afterCr (a ++ b) =
      splitLinesFrom isBreak cr lf line afterCr a ++ splitLines isBreak cr lf b := by
  induction a generalizing line afterCr with
  | nil => exact absurd rfl hne
  | cons c a ih =>
    -- what is left of `a`, and `b` behind it
    have hrest : ∀ flag line', (a = [] → line' = []) →
        splitLinesFrom isBreak cr lf line' flag (a ++ b) =
          splitLinesFrom isBreak cr lf line' flag a ++ splitLines isBreak cr lf b := by
      intro flag line' hline'
      by_cases hnil : a = []
      · subst hnil
        rw [hline' rfl]
        exact splitLinesFrom_afterCr hb [] flag
      · exact ih hnil ha.tail line' flag
    rw [List.cons_append, splitLinesFrom, splitLinesFrom]
    split_ifs with hpair hbreak
    · exact hrest false [] fun _ => rfl
    · rw [hrest _ [] fun _ => rfl, List.cons_append]
    · refine hrest false _ fun hnil => ?_
      subst hnil
      exact absurd (ha c rfl) hbreak

/-- **Complete lines come apart from what follows them.** -/
theorem splitLines_append {a b : List α} (ha : Complete isBreak a) (hb : b.head? ≠ some lf) :
    splitLines isBreak cr lf (a ++ b) =
      splitLines isBreak cr lf a ++ splitLines isBreak cr lf b := by
  by_cases hne : a = []
  · subst hne
    rfl
  · exact splitLinesFrom_append hne ha hb [] false

/-- Headed texts after each other: each header is a line, and every text but the last one ends
its last line. -/
theorem splitLines_sections {nl : α} (hnl : isBreak nl = true) (hcr : nl ≠ cr)
    (hlf : isBreak lf = true) {sections : List (List α × List α)}
    (hheader : ∀ s ∈ sections, s.1 ≠ [] ∧ ∀ c ∈ s.1, isBreak c = false)
    (hcomplete : ∀ s ∈ sections.dropLast, Complete isBreak s.2) :
    splitLines isBreak cr lf (sections.flatMap fun s => s.1 ++ nl :: s.2) =
      sections.flatMap fun s => s.1 :: splitLines isBreak cr lf s.2 := by
  induction sections with
  | nil => rfl
  | cons s sections ih =>
    have hs := hheader s List.mem_cons_self
    have hrest := fun t ht => hheader t (List.mem_cons_of_mem s ht)
    rw [List.flatMap_cons, List.flatMap_cons, List.append_assoc, List.cons_append,
      splitLines_line hs.2 hnl hcr]
    cases hsections : sections with
    | nil => simp
    | cons t sections' =>
      subst hsections
      have hbody : Complete isBreak s.2 := hcomplete s (by simp)
      have hhead : ((t :: sections').flatMap fun s => s.1 ++ nl :: s.2).head? ≠ some lf := by
        obtain ⟨hne, hunbroken⟩ := hrest t List.mem_cons_self
        obtain ⟨c, w, hw⟩ := List.exists_cons_of_ne_nil hne
        rw [List.flatMap_cons, hw]
        intro hc
        have hbreak := hunbroken c (by simp [hw])
        rw [Option.some.inj hc, hlf] at hbreak
        cases hbreak
      rw [splitLines_append hbody hhead, ih hrest fun u hu => hcomplete u ?_, List.cons_append]
      rw [List.dropLast_cons_of_ne_nil (List.cons_ne_nil t sections')]
      exact List.mem_cons_of_mem s hu

end CrdbLab.Lib.Lines
