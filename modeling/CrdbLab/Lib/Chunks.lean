import Mathlib.Data.List.Basic

/-!
A stream that arrives in chunks, taken line by line.

The lines that are whole are taken as each chunk arrives, and the rest waits for more. How the
stream is cut into chunks makes no difference.
-/

namespace CrdbLab.Lib.Chunks

variable {α σ : Type*} [DecidableEq α] (nl : α)

/-- The lines of a text, the last one without its end only if it is not empty. -/
def linesOf (s : List α) : List (List α) :=
  let parts := s.splitOn nl
  if parts.getLast? = some [] then parts.dropLast else parts

variable (take : σ → List α → σ)

/-- The stream has ended: what was not ended by a line break is a line as well. -/
def finish (s : σ) (buf : List α) : σ := if buf = [] then s else take s buf

/-- Takes the lines of the chunks, up to one that is empty. -/
def consume (s : σ) (buf : List α) : List (List α) → σ
  | [] => finish take s buf
  | chunk :: chunks =>
    if chunk = [] then finish take s buf
    else
      let parts := (buf ++ chunk).splitOn nl
      consume (parts.dropLast.foldl take s) (parts.getLast?.getD []) chunks

/-! ### Chunks make no difference -/

variable {nl take}

/-- A text is one line that is not ended, or such a line behind the last line break. -/
lemma last_break (nl : α) (s : List α) :
    nl ∉ s ∨ ∃ a b, s = a ++ nl :: b ∧ nl ∉ b := by
  by_cases h : nl ∈ s
  · obtain ⟨a, b, heq, hb⟩ := List.eq_append_cons_of_mem (List.mem_reverse.mpr h)
    refine Or.inr ⟨b.reverse, a.reverse, ?_, by simpa using hb⟩
    rw [← List.reverse_reverse s, heq]
    simp
  · exact Or.inl h

/-- What is behind the last line break goes on with what follows. -/
lemma splitOn_append {s buf : List α} {whole : List (List α)}
    (h : s.splitOn nl = whole ++ [buf]) (t : List α) :
    (s ++ t).splitOn nl = whole ++ (buf ++ t).splitOn nl := by
  rcases last_break nl s with hs | ⟨a, b, rfl, hb⟩
  · rw [List.splitOn_eq_singleton hs] at h
    obtain ⟨rfl, hbuf⟩ := List.append_inj' (h.symm.trans (List.nil_append [s]).symm) rfl
    rw [List.singleton_inj.mp hbuf, List.nil_append]
  · rw [List.splitOn_append_cons_self, List.splitOn_eq_singleton hb] at h
    obtain ⟨rfl, hbuf⟩ := List.append_inj' h rfl
    rw [← List.singleton_inj.mp hbuf, List.append_assoc, List.cons_append,
      List.splitOn_append_cons_self]

variable (nl) in
/-- The parts of a text: its whole lines, and what is behind the last line break. -/
lemma splitOn_parts (s : List α) :
    ∃ whole buf, s.splitOn nl = whole ++ [buf] ∧ (s.splitOn nl).dropLast = whole ∧
      (s.splitOn nl).getLast? = some buf := by
  have hne : s.splitOn nl ≠ [] := List.splitOn_ne_nil nl s
  refine ⟨_, (s.splitOn nl).getLast hne, (List.dropLast_append_getLast hne).symm, rfl, ?_⟩
  exact List.getLast?_eq_getLast_of_ne_nil hne

lemma consume_of_parts {s : List α} {whole : List (List α)} {buf : List α}
    (h : s.splitOn nl = whole ++ [buf]) (x : σ) {chunks : List (List α)}
    (hchunks : ∀ chunk ∈ chunks, chunk ≠ []) :
    consume nl take (whole.foldl take x) buf chunks =
      (linesOf nl (s ++ chunks.flatten)).foldl take x := by
  induction chunks generalizing s whole buf with
  | nil =>
    rw [consume, finish, List.flatten_nil, List.append_nil, linesOf, h]
    simp only [List.getLast?_append, List.getLast?_singleton, Option.some_or,
      List.dropLast_concat]
    by_cases hbuf : buf = []
    · simp [hbuf]
    · simp [hbuf]
  | cons chunk chunks ih =>
    have hchunk : chunk ≠ [] := hchunks chunk List.mem_cons_self
    obtain ⟨whole', buf', hparts, hdrop, hlast⟩ := splitOn_parts nl (buf ++ chunk)
    have hnext : (s ++ chunk).splitOn nl = (whole ++ whole') ++ [buf'] := by
      rw [splitOn_append h, hparts, List.append_assoc]
    rw [consume, if_neg hchunk]
    dsimp only
    rw [hdrop, hlast, Option.getD_some, ← List.foldl_append,
      ih hnext fun chunk' h' => hchunks chunk' (List.mem_cons_of_mem chunk h'),
      List.append_assoc, List.flatten_cons]

/-- **Chunks make no difference**: what is taken are the lines of the whole stream. -/
theorem consume_eq (x : σ) {chunks : List (List α)} (hchunks : ∀ chunk ∈ chunks, chunk ≠ []) :
    consume nl take x [] chunks = (linesOf nl chunks.flatten).foldl take x := by
  have hnil : ([] : List α).splitOn nl = [] ++ [[]] := List.splitOn_nil nl
  calc consume nl take x [] chunks
      = (linesOf nl ([] ++ chunks.flatten)).foldl take x := consume_of_parts hnil x hchunks
    _ = (linesOf nl chunks.flatten).foldl take x := by rw [List.nil_append]

end CrdbLab.Lib.Chunks
