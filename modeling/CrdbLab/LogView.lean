import CrdbLab.Lib.Loops
import Mathlib.Algebra.Order.Ring.Int
import Mathlib.Data.List.Basic

/-!
The log pane of the pipeline's terminal view.

A log line is text with colour codes in it. The codes cut it into segments of one style each,
and a loop cuts the segments again into rows, each turn of it taking from the front of a
segment what room is left in the row. A slice by a length below zero counts from the other end,
so where the pane has no columns the loop takes the text it leaves.
-/

namespace CrdbLab.LogView

open CrdbLab.Lib.Loops

/-! ### Colour codes -/

inductive Colour | red | green | yellow
  deriving DecidableEq, Repr

structure Style where
  bold : Bool := false
  dim : Bool := false
  colour : Option Colour := none
  deriving DecidableEq, Repr

structure Segment where
  text : List Char
  style : Style
  deriving DecidableEq, Repr

def isParameter (c : Char) : Bool := c.isDigit || c == ';'

/-- A colour code at the front of the text: its parameters, and what follows it. -/
def sgr? : List Char → Option (List Char × List Char)
  | '\x1b' :: '[' :: rest =>
    match rest.dropWhile isParameter with
    | 'm' :: behind => some (rest.takeWhile isParameter, behind)
    | _ => none
  | _ => none

/-- What a log line is made of. -/
inductive Piece
  | char (c : Char)
  | sgr (parameters : List Char)
  deriving DecidableEq, Repr

def pieces : ℕ → List Char → List Piece
  | _, [] => []
  | 0, _ :: _ => []
  | n + 1, c :: s =>
    match sgr? (c :: s) with
    | some (parameters, rest) => .sgr parameters :: pieces n rest
    | none => .char c :: pieces n s

def ansi (raw : List Char) : List Piece := pieces raw.length raw

def Piece.visible : Piece → List Char
  | .char c => [c]
  | .sgr _ => []

/-- The line without its colour codes. -/
def plain (raw : List Char) : List Char := (ansi raw).flatMap Piece.visible

/-! ### Segments -/

/-- The colour that a code turns on. -/
def colourOf (code : List Char) : Option Colour :=
  [("31".toList, Colour.red), ("32".toList, .green), ("33".toList, .yellow)].lookup code

def Style.apply (style : Style) (code : List Char) : Style :=
  if code = [] ∨ code = ['0'] then {}
  else if code = ['1'] then { style with bold := true }
  else if code = ['2'] then { style with dim := true }
  else
    match colourOf code with
    | some colour => { style with colour := some colour }
    | none => style

def Style.applyAll (style : Style) (parameters : List Char) : Style :=
  ((if parameters = [] then ['0'] else parameters).splitOn ';').foldl Style.apply style

/-- The text read since the last colour code, as a segment unless it is empty. -/
def segmentOf (text : List Char) (style : Style) : List Segment :=
  if text = [] then [] else [⟨text, style⟩]

def segmentsFrom (style : Style) (text : List Char) : List Piece → List Segment
  | [] => segmentOf text style
  | .char c :: rest => segmentsFrom style (text ++ [c]) rest
  | .sgr parameters :: rest =>
    segmentOf text style ++ segmentsFrom (style.applyAll parameters) [] rest

def segments (raw : List Char) : List Segment := segmentsFrom {} [] (ansi raw)

lemma flatMap_text_segmentOf (text : List Char) (style : Style) :
    (segmentOf text style).flatMap Segment.text = text := by
  unfold segmentOf
  split_ifs with h
  · exact h.symm
  · exact List.append_nil text

lemma flatMap_text_segmentsFrom (style : Style) (text : List Char) (ps : List Piece) :
    (segmentsFrom style text ps).flatMap Segment.text = text ++ ps.flatMap Piece.visible := by
  induction ps generalizing style text with
  | nil => rw [segmentsFrom, flatMap_text_segmentOf, List.flatMap_nil, List.append_nil]
  | cons p ps ih =>
    cases p with
    | char c => rw [segmentsFrom, ih, List.flatMap_cons, Piece.visible, List.append_assoc]
    | sgr parameters =>
      rw [segmentsFrom, List.flatMap_append, flatMap_text_segmentOf, ih, List.flatMap_cons,
        Piece.visible]

/-- The segments of a line show all its text. -/
lemma flatMap_text_segments (raw : List Char) :
    (segments raw).flatMap Segment.text = plain raw := flatMap_text_segmentsFrom {} [] (ansi raw)

lemma segmentsFrom_text_ne_nil {style : Style} {text : List Char} {ps : List Piece} :
    ∀ g ∈ segmentsFrom style text ps, g.text ≠ [] := by
  have hone : ∀ (text : List Char) (style : Style), ∀ g ∈ segmentOf text style, g.text ≠ [] := by
    intro text style g hg
    unfold segmentOf at hg
    split_ifs at hg with h
    · simp at hg
    · rwa [List.mem_singleton.mp hg]
  induction ps generalizing style text with
  | nil => exact hone text style
  | cons p ps ih =>
    cases p with
    | char c => exact ih
    | sgr parameters =>
      intro g hg
      rcases List.mem_append.mp hg with hg | hg
      · exact hone text style g hg
      · exact ih g hg

lemma segments_eq_nil_iff {raw : List Char} : segments raw = [] ↔ plain raw = [] := by
  rw [← flatMap_text_segments]
  constructor
  · intro h
    rw [h, List.flatMap_nil]
  · intro h
    refine List.eq_nil_iff_forall_not_mem.mpr fun g hg => ?_
    exact segmentsFrom_text_ne_nil g hg (List.flatMap_eq_nil_iff.mp h g hg)

/-! ### Wrapping -/

/-- `xs[:n]` -/
def sliceTo {α : Type*} (n : ℤ) (xs : List α) : List α :=
  if 0 ≤ n then xs.take n.toNat else xs.take (xs.length + n).toNat

/-- `xs[n:]` -/
def sliceFrom {α : Type*} (n : ℤ) (xs : List α) : List α :=
  if 0 ≤ n then xs.drop n.toNat else xs.drop (xs.length + n).toNat

abbrev Row := List Segment

def rowText (row : Row) : List Char := row.flatMap Segment.text

/-- The finished rows of a line, and the row that is being filled. -/
structure Wrap where
  flat : List Row := []
  line : Row := []
  used : ℕ := 0
  deriving DecidableEq, Repr

def Wrap.add (width : ℤ) (s : Wrap) (chunk : Segment) : Wrap :=
  let line := s.line ++ [chunk]
  let used := s.used + chunk.text.length
  if width ≤ used then { flat := s.flat ++ [line] } else { s with line := line, used := used }

/-- One turn of the loop over the text of a segment. -/
def turn (width : ℤ) (style : Style) (p : Wrap × List Char) : Option (Wrap × List Char) :=
  if p.2 = [] then none
  else
    let room := width - p.1.used
    some (p.1.add width ⟨sliceTo room p.2, style⟩, sliceFrom room p.2)

def wrapSegment (width : ℤ) (turns : ℕ) (s : Wrap) (g : Segment) : Option Wrap :=
  (loop (turn width g.style) turns (s, g.text)).map Prod.fst

def Wrap.rows (s : Wrap) : List Row :=
  if s.line ≠ [] ∨ s.flat = [] then s.flat ++ [s.line] else s.flat

/-- The rows of a log line, when no segment takes more than the given turns. -/
def wrapLine (width : ℤ) (turns : ℕ) (raw : List Char) : Option (List Row) :=
  ((segments raw).foldlM (wrapSegment width turns) {}).map Wrap.rows

/-! ### Slices -/

section Slices

variable {α : Type*} {n : ℤ} {xs : List α}

lemma sliceTo_append_sliceFrom (n : ℤ) (xs : List α) : sliceTo n xs ++ sliceFrom n xs = xs := by
  unfold sliceTo sliceFrom
  split_ifs <;> exact List.take_append_drop _ xs

lemma mem_of_mem_sliceFrom {x : α} (h : x ∈ sliceFrom n xs) : x ∈ xs := by
  rw [← sliceTo_append_sliceFrom n xs]
  exact List.mem_append_right _ h

lemma length_sliceTo_le (h : 0 ≤ n) : ((sliceTo n xs).length : ℤ) ≤ n := by
  rw [sliceTo, if_pos h, List.length_take]
  omega

/-- A slice that starts past the front is shorter. -/
lemma length_sliceFrom_lt (h : 0 < n) (hxs : xs ≠ []) :
    (sliceFrom n xs).length < xs.length := by
  have hlen := List.length_pos_iff.mpr hxs
  rw [sliceFrom, if_pos h.le, List.length_drop]
  omega

/-- From zero, or from a place before the end, something is left. -/
lemma sliceFrom_ne_nil (h : n ≤ 0) (hxs : xs ≠ []) : sliceFrom n xs ≠ [] := by
  have hlen := List.length_pos_iff.mpr hxs
  unfold sliceFrom
  split_ifs with h0
  · obtain rfl : n = 0 := by omega
    exact hxs
  · rw [Ne, List.drop_eq_nil_iff]
    omega

end Slices

/-! ### A pane with room -/

/-- The wrapped text is the text seen so far, and no row is too wide. -/
structure Fits (width : ℤ) (seen : List Char) (s : Wrap) : Prop where
  text : (s.flat ++ [s.line]).flatMap rowText = seen
  used : s.used = (rowText s.line).length
  room : (s.used : ℤ) < width
  rows : ∀ row ∈ s.flat, ((rowText row).length : ℤ) ≤ width

lemma rowText_append_singleton (row : Row) (g : Segment) :
    rowText (row ++ [g]) = rowText row ++ g.text := by
  simp [rowText]

section Room

variable {width : ℤ}

lemma Fits.start (hw : 0 < width) : Fits width [] {} :=
  ⟨rfl, rfl, hw, fun _ hrow => absurd hrow (by simp)⟩

lemma Fits.add (hw : 0 < width) {seen : List Char} {s : Wrap} (h : Fits width seen s)
    {g : Segment} (hg : (g.text.length : ℤ) ≤ width - s.used) :
    Fits width (seen ++ g.text) (s.add width g) := by
  have hline : (rowText (s.line ++ [g])).length = s.used + g.text.length := by
    rw [rowText_append_singleton, List.length_append, h.used]
  have htext : (s.flat ++ [s.line ++ [g]]).flatMap rowText = seen ++ g.text := by
    rw [List.flatMap_append, ← h.text, List.flatMap_append, List.append_assoc]
    simp [rowText]
  unfold Wrap.add
  dsimp only
  split_ifs with hfull
  · refine ⟨?_, rfl, hw, ?_⟩
    · rw [List.flatMap_append, htext]
      simp [rowText]
    · intro row hrow
      rcases List.mem_append.mp hrow with hrow | hrow
      · exact h.rows row hrow
      · rw [List.mem_singleton.mp hrow, hline]
        push_cast
        omega
  · exact ⟨htext, hline.symm, not_le.mp hfull, h.rows⟩

/-- One turn takes some text, and no more than there is room for. -/
lemma turn_fits (hw : 0 < width) {style : Style} {seen : List Char} {s s' : Wrap}
    {text text' : List Char} (h : Fits width seen s)
    (hturn : turn width style (s, text) = some (s', text')) :
    ∃ chunk, chunk ++ text' = text ∧ text'.length < text.length ∧
      Fits width (seen ++ chunk) s' := by
  unfold turn at hturn
  split_ifs at hturn with htext
  obtain ⟨rfl, rfl⟩ := Prod.mk.inj (Option.some.inj hturn)
  have hroom : 0 < width - s.used := by
    have := h.room
    omega
  refine ⟨sliceTo (width - s.used) text, sliceTo_append_sliceFrom _ text,
    length_sliceFrom_lt hroom htext, ?_⟩
  exact h.add hw (g := ⟨sliceTo (width - s.used) text, style⟩) (length_sliceTo_le hroom.le)

lemma wrapSegment_fits (hw : 0 < width) {seen : List Char} {s : Wrap} (h : Fits width seen s)
    {g : Segment} {turns : ℕ} (hturns : g.text.length ≤ turns) :
    ∃ s', wrapSegment width turns s g = some s' ∧ Fits width (seen ++ g.text) s' := by
  let I : Wrap × List Char → Prop := fun p =>
    ∃ done, done ++ p.2 = g.text ∧ Fits width (seen ++ done) p.1
  have hstep : ∀ p q, I p → turn width g.style p = some q → I q ∧ q.2.length < p.2.length := by
    rintro ⟨s₁, text₁⟩ ⟨s₂, text₂⟩ ⟨done, hdone, hfits⟩ hturn
    obtain ⟨chunk, hchunk, hshort, hfits'⟩ := turn_fits hw hfits hturn
    refine ⟨⟨done ++ chunk, ?_, ?_⟩, hshort⟩
    · rw [List.append_assoc, hchunk, hdone]
    · rwa [← List.append_assoc]
  have hstart : I (s, g.text) := ⟨[], rfl, by rwa [List.append_nil]⟩
  obtain ⟨⟨s', text'⟩, hloop, ⟨done, hdone, hfits⟩, hend⟩ :=
    loop_of_decreasing I (fun p => p.2.length) hstep hstart hturns
  have htext' : text' = [] := by
    unfold turn at hend
    split_ifs at hend with hnil
    exact hnil
  subst htext'
  rw [List.append_nil] at hdone
  subst hdone
  refine ⟨s', ?_, hfits⟩
  rw [wrapSegment, hloop]
  rfl

lemma foldlM_wrapSegment_fits (hw : 0 < width) {seen : List Char} {s : Wrap}
    (h : Fits width seen s) {turns : ℕ} {gs : List Segment}
    (hturns : ∀ g ∈ gs, g.text.length ≤ turns) :
    ∃ s', gs.foldlM (wrapSegment width turns) s = some s' ∧
      Fits width (seen ++ gs.flatMap Segment.text) s' := by
  induction gs generalizing s seen with
  | nil => exact ⟨s, rfl, by rwa [List.flatMap_nil, List.append_nil]⟩
  | cons g gs ih =>
    obtain ⟨s', hg, hfits⟩ := wrapSegment_fits hw h (hturns g List.mem_cons_self)
    obtain ⟨s'', hgs, hfits'⟩ := ih hfits fun g' hg' => hturns g' (List.mem_cons_of_mem g hg')
    refine ⟨s'', ?_, by rwa [List.flatMap_cons, ← List.append_assoc]⟩
    rw [List.foldlM_cons, hg]
    exact hgs

lemma Fits.rows_spec {seen : List Char} {s : Wrap} (h : Fits width seen s) :
    s.rows.flatMap rowText = seen ∧ ∀ row ∈ s.rows, ((rowText row).length : ℤ) ≤ width := by
  unfold Wrap.rows
  split_ifs with hline
  · refine ⟨h.text, fun row hrow => ?_⟩
    rcases List.mem_append.mp hrow with hrow | hrow
    · exact h.rows row hrow
    · rw [List.mem_singleton.mp hrow, ← h.used]
      exact h.room.le
  · -- an empty last row holds no text
    obtain ⟨hline, -⟩ := not_or.mp hline
    refine ⟨?_, h.rows⟩
    rw [← h.text, not_not.mp hline, List.flatMap_append]
    simp [rowText]

lemma length_text_le_of_mem_segments {raw : List Char} {g : Segment} (hg : g ∈ segments raw) :
    g.text.length ≤ (plain raw).length := by
  rw [← flatMap_text_segments, List.flatMap_def]
  exact (List.sublist_flatten_of_mem (List.mem_map_of_mem hg)).length_le

/-- A line is wrapped in as many turns as it has signs. -/
theorem wrapLine_of_room (hw : 0 < width) {raw : List Char} {turns : ℕ}
    (hturns : (plain raw).length ≤ turns) :
    ∃ rows, wrapLine width turns raw = some rows ∧ rows.flatMap rowText = plain raw ∧
      ∀ row ∈ rows, ((rowText row).length : ℤ) ≤ width := by
  have hshort : ∀ g ∈ segments raw, g.text.length ≤ turns := fun g hg =>
    (length_text_le_of_mem_segments hg).trans hturns
  obtain ⟨s, hs, hfits⟩ := foldlM_wrapSegment_fits hw (Fits.start hw) hshort
  rw [List.nil_append, flatMap_text_segments] at hfits
  refine ⟨s.rows, ?_, hfits.rows_spec⟩
  rw [wrapLine, hs]
  rfl

end Room

example :
    wrapLine 3 4 ("\x1b[1;32mab".toList ++ "\x1b[0mcd".toList) =
      some
        [[⟨['a', 'b'], { bold := true, colour := some .green }⟩, ⟨['c'], {}⟩], [⟨['d'], {}⟩]] := by
  decide

/-! ### A pane without columns -/

/-- The row is empty, and the text is not. -/
def Stuck (p : Wrap × List Char) : Prop := p.1.used = 0 ∧ p.2 ≠ []

lemma turn_stuck {width : ℤ} (hw : width ≤ 0) {style : Style} {p : Wrap × List Char}
    (h : Stuck p) : ∃ p', turn width style p = some p' ∧ Stuck p' := by
  obtain ⟨s, text⟩ := p
  obtain ⟨hused, htext⟩ := h
  dsimp only at hused htext
  refine ⟨_, if_neg htext, ?_, sliceFrom_ne_nil ?_ htext⟩
  · -- the chunk fills the row, however long it is
    dsimp only
    rw [Wrap.add, if_pos]
    dsimp only
    omega
  · dsimp only
    omega

lemma wrapLine_of_no_room {width : ℤ} (hw : width ≤ 0) {raw : List Char} (h : plain raw ≠ [])
    (turns : ℕ) : wrapLine width turns raw = none := by
  obtain ⟨g, gs, hsegments⟩ :=
    List.exists_cons_of_ne_nil fun hnil => h (segments_eq_nil_iff.mp hnil)
  have hg : g.text ≠ [] := segmentsFrom_text_ne_nil g (by rw [← segments, hsegments]; simp)
  have hloop : loop (turn width g.style) turns ({}, g.text) = none :=
    loop_eq_none_of_kept Stuck (fun _ hp => turn_stuck hw hp) ⟨rfl, hg⟩ turns
  rw [wrapLine, hsegments, List.foldlM_cons, wrapSegment, hloop]
  rfl

lemma wrapLine_of_plain_eq_nil (width : ℤ) (turns : ℕ) {raw : List Char} (h : plain raw = []) :
    wrapLine width turns raw = some [[]] := by
  rw [wrapLine, segments_eq_nil_iff.mpr h]
  rfl

/-! ### The widths of a terminal -/

/-- The columns that the list of steps takes. -/
def side (w : ℤ) : ℤ := if 120 ≤ w then 40 else if 100 ≤ w then 34 else 0

/-- The columns that a row of the log has. -/
def available (w : ℤ) : ℤ := w - side w - 2

lemma available_pos_iff {w : ℤ} : 0 < available w ↔ 3 ≤ w := by
  unfold available side
  split_ifs <;> omega

/-- The line is wrapped, into rows that show it and that the pane has columns for if it has
any. -/
def Wraps (w : ℤ) (raw : List Char) : Prop :=
  ∃ rows, (∃ turns, wrapLine (available w) turns raw = some rows) ∧
    (0 < available w →
      rows.flatMap rowText = plain raw ∧
        ∀ row ∈ rows, ((rowText row).length : ℤ) ≤ available w)

/-- **A line with text in it is wrapped in a terminal of three columns or more, and in no
other.** -/
theorem wraps_iff_columns (w : ℤ) (raw : List Char) : Wraps w raw ↔ 3 ≤ w ∨ plain raw = [] := by
  constructor
  · rintro ⟨rows, ⟨turns, hrows⟩, -⟩
    by_contra hnot
    obtain ⟨hnarrow, htext⟩ := not_or.mp hnot
    have hw : available w ≤ 0 := not_lt.mp (available_pos_iff.not.mpr hnarrow)
    rw [wrapLine_of_no_room hw htext] at hrows
    cases hrows
  · rintro (hw | htext)
    · obtain ⟨rows, hrows, hspec⟩ := wrapLine_of_room (available_pos_iff.mpr hw) le_rfl
      exact ⟨rows, ⟨_, hrows⟩, fun _ => hspec⟩
    · refine ⟨[[]], ⟨0, wrapLine_of_plain_eq_nil _ 0 htext⟩, fun hw => ⟨htext.symm, ?_⟩⟩
      intro row hrow
      rw [List.mem_singleton.mp hrow]
      exact hw.le

/-- In a terminal of two columns one letter is never wrapped. -/
theorem not_wraps_two_columns : (1 : ℤ) ≤ 2 ∧ ¬ Wraps 2 ['a'] := by
  refine ⟨by decide, ?_⟩
  rintro ⟨rows, ⟨turns, hrows⟩, -⟩
  rw [wrapLine_of_no_room (by decide) (by decide)] at hrows
  cases hrows

/-! ### The pane -/

/-- The rows of the newest lines, as many as the view needs. -/
def gather (width : ℤ) (turns : ℕ) (needed : ℤ) : List (List Char) → List Row → Option (List Row)
  | [], rows => some rows
  | raw :: older, rows => do
    let flat ← wrapLine width turns raw
    if needed ≤ (flat ++ rows).length then some (flat ++ rows)
    else gather width turns needed older (flat ++ rows)

/-- A text that is put on the screen. -/
structure Put where
  y : ℤ
  x : ℤ
  text : List Char
  style : Style
  deriving DecidableEq, Repr

def putRow (y : ℤ) : ℤ → Row → List Put
  | _, [] => []
  | x, g :: row => ⟨y, x, g.text, g.style⟩ :: putRow y (x + g.text.length) row

def putRows (x : ℤ) : ℤ → List Row → List Put
  | _, [] => []
  | y, row :: rows => putRow y x row ++ putRows x (y + 1) rows

/-- The rows that the scroll leaves in sight. -/
def inSight (height scroll : ℤ) (rows : List Row) : List Row :=
  let last := rows.length - scroll
  (rows.take (max 0 last).toNat).drop (max 0 (last - height)).toNat

def log (turns : ℕ) (lines : List (List Char)) (y0 x0 width height scroll : ℤ) :
    Option (List Put) := do
  let source := sliceFrom (-(height + scroll + 400)) lines
  let rows ← gather (width - 2) turns (height + scroll) source.reverse []
  return putRows (x0 + 1) y0 (inSight height scroll rows)

/-- The log as it is drawn in a terminal of `h` rows and `w` columns, above a panel of seven. -/
def drawLog (turns : ℕ) (lines : List (List Char)) (h w scroll : ℤ) : Option (List Put) :=
  log turns lines 1 (side w) (w - side w) (h - 2 - 7) scroll

lemma gather_of_room {width : ℤ} (hw : 0 < width) {turns : ℕ} (needed : ℤ)
    {lines : List (List Char)} (hturns : ∀ raw ∈ lines, (plain raw).length ≤ turns)
    {rows : List Row} (hrows : ∀ row ∈ rows, ((rowText row).length : ℤ) ≤ width) :
    ∃ rows', gather width turns needed lines rows = some rows' ∧
      ∀ row ∈ rows', ((rowText row).length : ℤ) ≤ width := by
  induction lines generalizing rows with
  | nil => exact ⟨rows, rfl, hrows⟩
  | cons raw older ih =>
    obtain ⟨flat, hflat, -, hfits⟩ := wrapLine_of_room hw (hturns raw List.mem_cons_self)
    have hall : ∀ row ∈ flat ++ rows, ((rowText row).length : ℤ) ≤ width := fun row hrow =>
      (List.mem_append.mp hrow).elim (hfits row) (hrows row)
    rw [gather, hflat, Option.bind_eq_bind, Option.bind_some]
    split_ifs
    · exact ⟨_, rfl, hall⟩
    · exact ih (fun raw' h => hturns raw' (List.mem_cons_of_mem raw h)) hall

lemma mem_putRow {y x : ℤ} {row : Row} {p : Put} (h : p ∈ putRow y x row) :
    p.y = y ∧ x ≤ p.x ∧ p.x + p.text.length ≤ x + (rowText row).length := by
  induction row generalizing x with
  | nil => simp [putRow] at h
  | cons g row ih =>
    have hlen : (rowText (g :: row)).length = g.text.length + (rowText row).length := by
      simp [rowText]
    rcases List.mem_cons.mp h with rfl | h
    · refine ⟨rfl, le_rfl, ?_⟩
      dsimp only
      omega
    · obtain ⟨hy, hx, hend⟩ := ih h
      exact ⟨hy, by omega, by omega⟩

lemma mem_putRows {y x : ℤ} {rows : List Row} {p : Put} (h : p ∈ putRows x y rows) :
    y ≤ p.y ∧ p.y < y + rows.length ∧ ∃ row ∈ rows, x ≤ p.x ∧
      p.x + p.text.length ≤ x + (rowText row).length := by
  induction rows generalizing y with
  | nil => simp [putRows] at h
  | cons row rows ih =>
    rw [List.length_cons]
    rcases List.mem_append.mp h with h | h
    · obtain ⟨hy, hx⟩ := mem_putRow h
      exact ⟨by omega, by omega, row, List.mem_cons_self, hx⟩
    · obtain ⟨hy, hy', row', hrow', hx⟩ := ih h
      exact ⟨by omega, by omega, row', List.mem_cons_of_mem row hrow', hx⟩

lemma length_inSight_le (height scroll : ℤ) (rows : List Row) :
    ((inSight height scroll rows).length : ℤ) ≤ max 0 height := by
  unfold inSight
  rw [List.length_drop, List.length_take]
  omega

lemma mem_of_mem_inSight {height scroll : ℤ} {rows : List Row} {row : Row}
    (h : row ∈ inSight height scroll rows) : row ∈ rows :=
  List.mem_of_mem_take (List.mem_of_mem_drop h)

/-- The log is drawn in a terminal of three columns or more, and stays in its pane: right of
the steps, left of the last column, and above the panel. -/
theorem drawLog_of_columns {w : ℤ} (hw : 3 ≤ w) (h scroll : ℤ) {lines : List (List Char)}
    {turns : ℕ} (hturns : ∀ raw ∈ lines, (plain raw).length ≤ turns) :
    ∃ puts, drawLog turns lines h w scroll = some puts ∧
      ∀ p ∈ puts, side w < p.x ∧ p.x + p.text.length ≤ w - 1 ∧ 1 ≤ p.y ∧
        p.y < 1 + max 0 (h - 9) := by
  have havail : 0 < w - side w - 2 := available_pos_iff.mpr hw
  have hsource : ∀ raw ∈ (sliceFrom (-(h - 2 - 7 + scroll + 400)) lines).reverse,
      (plain raw).length ≤ turns := fun raw hraw =>
    hturns raw (mem_of_mem_sliceFrom (List.mem_reverse.mp hraw))
  obtain ⟨rows, hrows, hfits⟩ := gather_of_room havail (h - 2 - 7 + scroll) hsource
    fun row (hrow : row ∈ []) => absurd hrow List.not_mem_nil
  refine ⟨putRows (side w + 1) 1 (inSight (h - 2 - 7) scroll rows), ?_, fun p hp => ?_⟩
  · rw [drawLog, log, hrows]
    rfl
  · obtain ⟨hy, hy', row, hrow, hx, hend⟩ := mem_putRows hp
    have hsight := length_inSight_le (h - 2 - 7) scroll rows
    have hwide := hfits row (mem_of_mem_inSight hrow)
    exact ⟨by omega, by omega, hy, by omega⟩

/-- With two columns or fewer the view hangs on its newest line. -/
theorem drawLog_of_no_columns {w : ℤ} (hw : w ≤ 2) {h scroll : ℤ} (hh : 1 ≤ h)
    (hscroll : 0 ≤ scroll) {older : List (List Char)} {newest : List Char}
    (htext : plain newest ≠ []) (turns : ℕ) :
    drawLog turns (older ++ [newest]) h w scroll = none := by
  have havail : w - side w - 2 ≤ 0 :=
    not_lt.mp (available_pos_iff.not.mpr (by omega : ¬ 3 ≤ w))
  obtain ⟨before, hsource⟩ : ∃ before,
      sliceFrom (-(h - 2 - 7 + scroll + 400)) (older ++ [newest]) = before ++ [newest] := by
    rw [sliceFrom, if_neg (by omega), List.drop_append_of_le_length]
    · exact ⟨_, rfl⟩
    · rw [List.length_append, List.length_singleton]
      omega
  rw [drawLog, log, hsource, List.reverse_append, List.reverse_singleton, List.singleton_append,
    gather, wrapLine_of_no_room havail htext]
  rfl

end CrdbLab.LogView
