import Mathlib.Data.List.Basic
import Mathlib.Data.List.Infix
import Mathlib.Tactic.Cases

/-!
Tables as text: a delimiter between fields, quotes around those that need them.

The reader goes through the text line by line and a line may end inside quotes, so that what it
sees is the characters and, after each line, its end. Reading back gives the rows that were
written, and of a table whose last row is torn off anywhere it gives the rows before it and at
most one more.
-/

namespace CrdbLab.Lib.Csv

variable {α : Type*} [DecidableEq α]

/-- The characters that mean something. -/
structure Dialect (α : Type*) where
  delimiter : α
  quote : α
  cr : α
  lf : α
  distinct : [delimiter, quote, cr, lf].Nodup

variable (d : Dialect α)

/-! ### Writing -/

/-- A field with such a character is quoted. -/
def special (c : α) : Bool := c = d.delimiter || c = d.quote || c = d.cr || c = d.lf

/-- Inside quotes a quote stands twice. -/
def escape (f : List α) : List α := f.flatMap fun c => if c = d.quote then [c, c] else [c]

def quoted (f : List α) : List α := d.quote :: (escape d f ++ [d.quote])

def writeField (f : List α) : List α := if f.any (special d) then quoted d f else f

def joinFields : List (List α) → List α
  | [] => []
  | [f] => writeField d f
  | f :: g :: row => writeField d f ++ d.delimiter :: joinFields (g :: row)

/-- A row; a single empty field is quoted, so that the line is not empty. -/
def writeRow (row : List (List α)) : List α :=
  (if row = [[]] then quoted d [] else joinFields d row) ++ [d.cr, d.lf]

def writeRows (rows : List (List (List α))) : List α := rows.flatMap (writeRow d)

/-! ### Reading -/

inductive Mode | startRecord | startField | inField | inQuoted | quoteInQuoted | eatCrnl
  deriving DecidableEq, Repr

structure Reader (α : Type*) where
  mode : Mode := .startRecord
  field : List α := []
  fields : List (List α) := []
  rows : List (List (List α)) := []

-- no field is longer than the limit
variable (limit : ℕ)

def Reader.add (r : Reader α) (c : α) (mode : Mode) : Option (Reader α) :=
  if r.field.length < limit then some { r with field := r.field ++ [c], mode := mode } else none

def Reader.save (r : Reader α) (mode : Mode) : Reader α :=
  { r with field := [], fields := r.fields ++ [r.field], mode := mode }

def Reader.emit (r : Reader α) : Reader α :=
  { r with mode := .startRecord, fields := [], rows := r.rows ++ [r.fields] }

/-- What a character does, or the end of a line. -/
def step (r : Reader α) : Option α → Option (Reader α)
  | none =>
    match r.mode with
    | .startRecord | .eatCrnl => some r.emit
    | .startField | .inField | .quoteInQuoted => some (r.save .startRecord).emit
    | .inQuoted => some r
  | some c =>
    match r.mode with
    | .startRecord =>
      if c = d.cr ∨ c = d.lf then some { r with mode := .eatCrnl }
      else if c = d.quote then some { r with mode := .inQuoted }
      else if c = d.delimiter then some (r.save .startField)
      else r.add limit c .inField
    | .startField =>
      if c = d.cr ∨ c = d.lf then some (r.save .eatCrnl)
      else if c = d.quote then some { r with mode := .inQuoted }
      else if c = d.delimiter then some (r.save .startField)
      else r.add limit c .inField
    | .inField =>
      if c = d.cr ∨ c = d.lf then some (r.save .eatCrnl)
      else if c = d.delimiter then some (r.save .startField)
      else r.add limit c .inField
    | .inQuoted =>
      if c = d.quote then some { r with mode := .quoteInQuoted } else r.add limit c .inQuoted
    | .quoteInQuoted =>
      if c = d.quote then r.add limit c .inQuoted
      else if c = d.delimiter then some (r.save .startField)
      else if c = d.cr ∨ c = d.lf then some (r.save .eatCrnl)
      else r.add limit c .inField
    | .eatCrnl => if c = d.cr ∨ c = d.lf then some r else none

/-- A line ends behind its end mark, which may be two characters, and where the text does. -/
def endsLine (c : α) (rest : List α) : Bool :=
  c = d.lf || (c = d.cr && rest.head? ≠ some d.lf) || rest.isEmpty

def feed (r : Reader α) : List α → Option (Reader α)
  | [] => some r
  | c :: rest =>
    (step d limit r (some c)).bind fun r =>
      (if endsLine d c rest then step d limit r none else some r).bind fun r => feed r rest

/-- The rows, with what is left of one that ends inside quotes. -/
def Reader.finish (r : Reader α) : List (List (List α)) :=
  if r.field ≠ [] ∨ r.mode = .inQuoted then r.rows ++ [r.fields ++ [r.field]] else r.rows

def readRows (text : List α) : Option (List (List (List α))) :=
  (feed d limit {} text).map Reader.finish

/-! ### Characters -/

omit [DecidableEq α] in
lemma delimiter_ne : d.delimiter ≠ d.quote ∧ d.delimiter ≠ d.cr ∧ d.delimiter ≠ d.lf := by
  have hdistinct := d.distinct
  simp only [List.nodup_cons, List.mem_cons, List.not_mem_nil, or_false, not_or] at hdistinct
  exact hdistinct.1

omit [DecidableEq α] in
lemma quote_ne : d.quote ≠ d.cr ∧ d.quote ≠ d.lf := by
  have hdistinct := d.distinct
  simp only [List.nodup_cons, List.mem_cons, List.not_mem_nil, or_false, not_or] at hdistinct
  exact hdistinct.2.1

omit [DecidableEq α] in
lemma cr_ne : d.cr ≠ d.lf := by
  have hdistinct := d.distinct
  simp only [List.nodup_cons, List.mem_cons, List.not_mem_nil, or_false, not_or] at hdistinct
  exact hdistinct.2.2.1

variable {d limit} {r : Reader α} {c : α} {s : List α}

lemma special_eq_false : special d c = false ↔
    c ≠ d.delimiter ∧ c ≠ d.quote ∧ c ≠ d.cr ∧ c ≠ d.lf := by
  simp [special, and_assoc]

lemma endsLine_of_ordinary (hcr : c ≠ d.cr) (hlf : c ≠ d.lf) (hs : s ≠ []) :
    endsLine d c s = false := by
  simp [endsLine, hcr, hlf, hs]

lemma feed_cons_of_ordinary (hcr : c ≠ d.cr) (hlf : c ≠ d.lf) (hs : s ≠ []) :
    feed d limit r (c :: s) = (step d limit r (some c)).bind fun r => feed d limit r s := by
  rw [feed]
  simp [endsLine_of_ordinary hcr hlf hs]

/-- The end of a line inside quotes does nothing. -/
lemma feed_quoted_char (hmode : r.mode = .inQuoted) (hc : c ≠ d.quote)
    (hroom : r.field.length < limit) :
    feed d limit r (c :: s) = feed d limit { r with field := r.field ++ [c] } s := by
  have hstep : step d limit r (some c) = some { r with field := r.field ++ [c] } := by
    simp [step, hmode, hc, Reader.add, hroom]
  have hend : step d limit { r with field := r.field ++ [c] } none =
      some { r with field := r.field ++ [c] } := by simp [step, hmode]
  rw [feed, hstep, Option.bind_some, hend, ite_self, Option.bind_some]

/-- A quote that stands twice is one. -/
lemma feed_quoted_quote (hmode : r.mode = .inQuoted) (hroom : r.field.length < limit) :
    feed d limit r (d.quote :: d.quote :: s) =
      feed d limit { r with field := r.field ++ [d.quote] } s := by
  have hstep : step d limit r (some d.quote) = some { r with mode := .quoteInQuoted } := by
    simp [step, hmode]
  have hback : step d limit { r with mode := .quoteInQuoted } (some d.quote) =
      some { r with field := r.field ++ [d.quote] } := by
    simp [step, Reader.add, hroom, hmode]
  have hend : step d limit { r with field := r.field ++ [d.quote] } none =
      some { r with field := r.field ++ [d.quote] } := by simp [step, hmode]
  rw [feed_cons_of_ordinary (quote_ne d).1 (quote_ne d).2 (List.cons_ne_nil _ _), hstep,
    Option.bind_some, feed, hback, Option.bind_some, hend, ite_self, Option.bind_some]

/-- The inside of a quoted field is read as it was. -/
lemma feed_escape (f : List α) (hmode : r.mode = .inQuoted)
    (hroom : r.field.length + f.length ≤ limit) :
    feed d limit r (escape d f ++ s) = feed d limit { r with field := r.field ++ f } s := by
  induction f generalizing r with
  | nil => simp [escape]
  | cons c f ih =>
    simp only [List.length_cons] at hroom
    have hlt : r.field.length < limit := by omega
    have hrest : ({ r with field := r.field ++ [c] } : Reader α).field.length + f.length ≤
        limit := by
      simp only [List.length_append, List.length_singleton]
      omega
    have hih := ih (r := { r with field := r.field ++ [c] }) hmode hrest
    by_cases hc : c = d.quote
    · subst hc
      have hescape : escape d (d.quote :: f) = d.quote :: d.quote :: escape d f := by
        simp [escape]
      rw [hescape, List.cons_append, List.cons_append, feed_quoted_quote hmode hlt, hih]
      simp
    · have hescape : escape d (c :: f) = c :: escape d f := by simp [escape, hc]
      rw [hescape, List.cons_append, feed_quoted_char hmode hc hlt, hih]
      simp

/-- A field without special characters is read on to its end. -/
lemma feed_plain (f : List α) (hf : ∀ c ∈ f, special d c = false) (hmode : r.mode = .inField)
    (hroom : r.field.length + f.length ≤ limit) (hs : s ≠ []) :
    feed d limit r (f ++ s) = feed d limit { r with field := r.field ++ f } s := by
  induction f generalizing r with
  | nil => simp
  | cons c f ih =>
    obtain ⟨hdelim, hquote, hcr, hlf⟩ := special_eq_false.mp (hf c List.mem_cons_self)
    simp only [List.length_cons] at hroom
    have hstep : step d limit r (some c) = some { r with field := r.field ++ [c] } := by
      have hlt : r.field.length < limit := by omega
      simp [step, hmode, hcr, hlf, hdelim, Reader.add, hlt]
    have hrest : ({ r with field := r.field ++ [c] } : Reader α).field.length + f.length ≤
        limit := by
      simp only [List.length_append, List.length_singleton]
      omega
    rw [List.cons_append, feed_cons_of_ordinary hcr hlf (by simp [hs]), hstep, Option.bind_some,
      ih (r := { r with field := r.field ++ [c] })
        (fun c' hc' => hf c' (List.mem_cons_of_mem c hc')) hmode hrest]
    simp

/-! ### Fields and rows -/

/-- At the start of a field. -/
def AtStart (r : Reader α) : Prop :=
  (r.mode = .startRecord ∨ r.mode = .startField) ∧ r.field = []

/-- Behind a field that was read, whichever way it was written. -/
def Behind (r : Reader α) (f : List α) (mode : Mode) : Prop :=
  mode = .inField ∨ mode = .quoteInQuoted ∨ f = [] ∧ mode = r.mode

/-- The reader with a field in its hands. -/
def held (r : Reader α) (f : List α) (mode : Mode) : Reader α := { r with field := f, mode := mode }

lemma step_first (hr : AtStart r) (hcr : c ≠ d.cr) (hlf : c ≠ d.lf) :
    step d limit r (some c) =
      if c = d.quote then some { r with mode := .inQuoted }
      else if c = d.delimiter then some (r.save .startField)
      else r.add limit c .inField := by
  rcases hr.1 with hmode | hmode
  · simp [step, hmode, hcr, hlf]
  · simp [step, hmode, hcr, hlf]

lemma feed_quoted (hr : AtStart r) {f : List α} (hf : f.length ≤ limit) (hs : s ≠ []) :
    feed d limit r (quoted d f ++ s) = feed d limit (held r f .quoteInQuoted) s := by
  have hopen : step d limit r (some d.quote) = some { r with mode := .inQuoted } := by
    rw [step_first hr (quote_ne d).1 (quote_ne d).2, if_pos rfl]
  have hclose : ∀ q : Reader α, q.mode = .inQuoted →
      step d limit q (some d.quote) = some { q with mode := .quoteInQuoted } := by
    intro q hq
    simp [step, hq]
  have hroom : ({ r with mode := .inQuoted } : Reader α).field.length + f.length ≤ limit := by
    simpa [hr.2] using hf
  rw [quoted, List.cons_append, List.append_assoc,
    feed_cons_of_ordinary (quote_ne d).1 (quote_ne d).2 (by simp), hopen, Option.bind_some,
    feed_escape f rfl hroom, List.singleton_append,
    feed_cons_of_ordinary (quote_ne d).1 (quote_ne d).2 hs, hclose _ rfl, Option.bind_some]
  simp [held, hr.2]

/-- **A field** reads back as it was, whatever follows it. -/
lemma feed_writeField (hr : AtStart r) {f : List α} (hf : f.length ≤ limit) (hs : s ≠ []) :
    ∃ mode, Behind r f mode ∧
      feed d limit r (writeField d f ++ s) = feed d limit (held r f mode) s := by
  unfold writeField
  split
  · exact ⟨.quoteInQuoted, Or.inr (Or.inl rfl), feed_quoted hr hf hs⟩
  · next hplain =>
    have hordinary : ∀ c ∈ f, special d c = false := by simpa using hplain
    cases f with
    | nil =>
      have hheld : held r [] r.mode = r := by rw [held, ← hr.2]
      exact ⟨r.mode, Or.inr (Or.inr ⟨rfl, rfl⟩), by rw [hheld, List.nil_append]⟩
    | cons c f =>
      refine ⟨.inField, Or.inl rfl, ?_⟩
      obtain ⟨hdelim, hquote, hcr, hlf⟩ := special_eq_false.mp (hordinary c List.mem_cons_self)
      have hlt : 0 < limit := Nat.lt_of_lt_of_le (Nat.succ_pos _) hf
      have hstep : step d limit r (some c) = some (held r [c] .inField) := by
        rw [step_first hr hcr hlf, if_neg hquote, if_neg hdelim]
        simp [Reader.add, hr.2, hlt, held]
      have hroom : (held r [c] .inField).field.length + f.length ≤ limit := by
        simp only [List.length_cons] at hf
        simp only [held, List.length_singleton]
        omega
      rw [List.cons_append, feed_cons_of_ordinary hcr hlf (by simp [hs]), hstep, Option.bind_some,
        feed_plain f (fun c' hc' => hordinary c' (List.mem_cons_of_mem c hc')) rfl hroom hs]
      rfl

/-- The delimiter ends the field. -/
lemma step_delimiter (hr : AtStart r) {f : List α} {mode : Mode} (hmode : Behind r f mode) :
    step d limit (held r f mode) (some d.delimiter) =
      some { r with mode := .startField, fields := r.fields ++ [f] } := by
  obtain ⟨hquote, hcr, hlf⟩ := delimiter_ne d
  rcases hmode with rfl | rfl | ⟨rfl, rfl⟩
  · simp [step, held, hcr, hlf, Reader.save, hr.2]
  · simp [step, held, hquote, Reader.save, hr.2]
  · have hstart : AtStart (held r ([] : List α) r.mode) := ⟨hr.1, rfl⟩
    rw [step_first hstart hcr hlf, if_neg hquote, if_pos rfl]
    simp [held, Reader.save, hr.2]

/-- The end of a line ends the field and the row, unless it stands where a row might start. -/
lemma step_newline (hr : AtStart r) {f : List α} {mode : Mode} (hmode : Behind r f mode)
    (hrecord : mode ≠ .startRecord) :
    step d limit (held r f mode) (some d.cr) =
      some { r with mode := .eatCrnl, fields := r.fields ++ [f] } := by
  have hcr := (quote_ne d).1.symm
  have hdelim := (delimiter_ne d).2.1.symm
  rcases hmode with rfl | rfl | ⟨rfl, rfl⟩
  · simp [step, held, Reader.save, hr.2]
  · simp [step, held, hcr, hdelim, Reader.save, hr.2]
  · rcases hr.1 with h | h
    · exact absurd h hrecord
    · simp [step, held, h, Reader.save, hr.2]

/-- The two characters at the end of a row. -/
lemma feed_newline (hr : AtStart r) {f : List α} {mode : Mode} (hmode : Behind r f mode)
    (hrecord : mode ≠ .startRecord) :
    feed d limit (held r f mode) (d.cr :: d.lf :: s) =
      feed d limit
        { r with mode := .startRecord, fields := [], rows := r.rows ++ [r.fields ++ [f]] } s := by
  have hfirst : endsLine d d.cr (d.lf :: s) = false := by simp [endsLine, cr_ne]
  have hsecond : endsLine d d.lf s = true := by simp [endsLine]
  rw [feed, step_newline hr hmode hrecord, hfirst]
  simp [feed, hsecond, step, Reader.emit]

/-- A row that starts at the start of a field. -/
lemma feed_joinFields {row : List (List α)} (hr : AtStart r) (hne : row ≠ [])
    (hempty : r.mode = .startRecord → row ≠ [[]]) (hrow : ∀ f ∈ row, f.length ≤ limit) :
    feed d limit r (joinFields d row ++ d.cr :: d.lf :: s) =
      feed d limit
        { r with mode := .startRecord, fields := [], rows := r.rows ++ [r.fields ++ row] } s := by
  induction row generalizing r with
  | nil => exact absurd rfl hne
  | cons f row ih =>
    cases row with
    | nil =>
      obtain ⟨mode, hmode, hfeed⟩ := feed_writeField (d := d) (s := d.cr :: d.lf :: s) hr
        (hrow f List.mem_cons_self) (List.cons_ne_nil _ _)
      rw [joinFields, hfeed]
      refine feed_newline hr hmode fun hrecord => ?_
      rcases hmode with rfl | rfl | ⟨rfl, rfl⟩
      · cases hrecord
      · cases hrecord
      · exact hempty hrecord rfl
    | cons g row =>
      have hrest : joinFields d (g :: row) ++ d.cr :: d.lf :: s ≠ [] := by simp
      obtain ⟨mode, hmode, hfeed⟩ := feed_writeField (d := d)
        (s := d.delimiter :: (joinFields d (g :: row) ++ d.cr :: d.lf :: s)) hr
        (hrow f List.mem_cons_self) (List.cons_ne_nil _ _)
      have hnext : AtStart
          ({ r with mode := .startField, fields := r.fields ++ [f] } : Reader α) :=
        ⟨Or.inr rfl, hr.2⟩
      rw [joinFields, List.append_assoc, List.cons_append, hfeed,
        feed_cons_of_ordinary (delimiter_ne d).2.1 (delimiter_ne d).2.2 hrest,
        step_delimiter hr hmode, Option.bind_some,
        ih hnext (List.cons_ne_nil _ _) nofun fun f' hf' => hrow f' (List.mem_cons_of_mem f hf')]
      simp

/-- The reader between two rows. -/
def between (rows : List (List (List α))) : Reader α := { rows := rows }

/-- **A row** reads back as it was, whatever follows it. -/
lemma feed_writeRow {rows : List (List (List α))} {row : List (List α)} (hne : row ≠ [])
    (hrow : ∀ f ∈ row, f.length ≤ limit) :
    feed d limit (between rows) (writeRow d row ++ s) =
      feed d limit (between (rows ++ [row])) s := by
  have hstart : AtStart (between rows : Reader α) := ⟨Or.inl rfl, rfl⟩
  unfold writeRow
  split
  · next hsingle =>
    subst hsingle
    rw [List.append_assoc, feed_quoted hstart (Nat.zero_le _) (by simp), List.cons_append,
      List.singleton_append, feed_newline hstart (Or.inr (Or.inl rfl)) nofun]
    rfl
  · next hsingle =>
    rw [List.append_assoc, List.cons_append, List.singleton_append,
      feed_joinFields hstart hne (fun _ => hsingle) hrow]
    rfl

/-- The rows a reader takes: no row is empty, and no field is longer than the limit. -/
def Readable (limit : ℕ) (row : List (List α)) : Prop := row ≠ [] ∧ ∀ f ∈ row, f.length ≤ limit

lemma feed_writeRows {rows : List (List (List α))} (h : ∀ row ∈ rows, Readable limit row)
    (before : List (List (List α))) :
    feed d limit (between before) (writeRows d rows ++ s) =
      feed d limit (between (before ++ rows)) s := by
  induction rows generalizing before with
  | nil => simp [writeRows]
  | cons row rows ih =>
    obtain ⟨hne, hrow⟩ := h row List.mem_cons_self
    have hih := ih (fun row' hrow' => h row' (List.mem_cons_of_mem row hrow')) (before ++ [row])
    simp only [writeRows, List.flatMap_cons, List.append_assoc] at hih ⊢
    rw [feed_writeRow hne hrow, hih, List.singleton_append]

/-- **Round trip**: the rows that were written are read. -/
theorem readRows_writeRows {rows : List (List (List α))} (h : ∀ row ∈ rows, Readable limit row) :
    readRows d limit (writeRows d rows) = some rows := by
  have hfeed := feed_writeRows (d := d) (s := []) h []
  rw [List.append_nil, List.nil_append] at hfeed
  have hstart : (between [] : Reader α) = {} := rfl
  rw [readRows, ← hstart, hfeed]
  rfl

/-! ### A row torn off -/

/-- What is read to the end gives the rows before and at most one more. -/
def AtMostOneMore (rows : List (List (List α))) (r : Option (Reader α)) : Prop :=
  ∃ more : List (List (List α)), more.length ≤ 1 ∧ r.map Reader.finish = some (rows ++ more)

/-- A prefix ends in the first part, or behind it in the second. -/
lemma prefix_append_cases {β : Type*} {q a b : List β} (h : q <+: a ++ b) :
    q <+: a ∨ ∃ t, t ≠ [] ∧ t <+: b ∧ q = a ++ t := by
  rcases List.prefix_or_prefix_of_prefix h (List.prefix_append a b) with hq | ⟨t, rfl⟩
  · exact Or.inl hq
  · cases t with
    | nil => exact Or.inl (by simp)
    | cons c t => exact Or.inr ⟨c :: t, List.cons_ne_nil _ _, (List.prefix_append_right_inj a).mp h, rfl⟩

/-- The text may end inside quotes. -/
lemma torn_escape (f : List α) {q : List α} (hq : q <+: escape d f ++ [d.quote])
    (hmode : r.mode = .inQuoted) (hroom : r.field.length + f.length ≤ limit) :
    AtMostOneMore r.rows (feed d limit r q) := by
  have hclosing : AtMostOneMore r.rows (feed d limit r [d.quote]) := by
    refine ⟨[r.fields ++ [r.field]], le_refl 1, ?_⟩
    simp [feed, step, hmode, endsLine, Reader.save, Reader.emit, Reader.finish]
  induction f generalizing r q with
  | nil =>
    have hcases : q = [] ∨ q = [d.quote] := by
      rcases List.prefix_cons_iff.mp (by simpa [escape] using hq) with rfl | ⟨t, rfl, ht⟩
      · exact Or.inl rfl
      · exact Or.inr (by rw [List.prefix_nil.mp ht])
    rcases hcases with rfl | rfl
    · exact ⟨[r.fields ++ [r.field]], le_refl 1, by simp [feed, Reader.finish, hmode]⟩
    · exact hclosing
  | cons c f ih =>
    simp only [List.length_cons] at hroom
    have hlt : r.field.length < limit := by omega
    have hrest : ({ r with field := r.field ++ [c] } : Reader α).field.length + f.length ≤
        limit := by
      simp only [List.length_append, List.length_singleton]
      omega
    have hnext : ∀ t, t <+: escape d f ++ [d.quote] →
        AtMostOneMore r.rows (feed d limit { r with field := r.field ++ [c] } t) := by
      intro t ht
      refine ih ht hmode hrest ⟨[r.fields ++ [r.field ++ [c]]], le_refl 1, ?_⟩
      simp [feed, step, hmode, endsLine, Reader.save, Reader.emit, Reader.finish]
    have hopen : AtMostOneMore r.rows (feed d limit r []) :=
      ⟨[r.fields ++ [r.field]], le_refl 1, by simp [feed, Reader.finish, hmode]⟩
    by_cases hc : c = d.quote
    · subst hc
      have hescape : escape d (d.quote :: f) = d.quote :: d.quote :: escape d f := by
        simp [escape]
      rw [hescape, List.cons_append, List.cons_append] at hq
      rcases List.prefix_cons_iff.mp hq with rfl | ⟨t, rfl, ht⟩
      · exact hopen
      · rcases List.prefix_cons_iff.mp ht with rfl | ⟨u, rfl, hu⟩
        · exact hclosing
        · rw [feed_quoted_quote hmode hlt]
          exact hnext u hu
    · have hescape : escape d (c :: f) = c :: escape d f := by simp [escape, hc]
      rw [hescape, List.cons_append] at hq
      rcases List.prefix_cons_iff.mp hq with rfl | ⟨t, rfl, ht⟩
      · exact hopen
      · rw [feed_quoted_char hmode hc hlt]
        exact hnext t ht

/-- The text may end in a field that is not quoted. -/
lemma torn_plain {q : List α} (hne : q ≠ []) (hq : ∀ c ∈ q, special d c = false)
    (hmode : AtStart r ∨ r.mode = .inField) (hroom : r.field.length + q.length ≤ limit) :
    AtMostOneMore r.rows (feed d limit r q) := by
  induction q generalizing r with
  | nil => exact absurd rfl hne
  | cons c q ih =>
    obtain ⟨hdelim, hquote, hcr, hlf⟩ := special_eq_false.mp (hq c List.mem_cons_self)
    simp only [List.length_cons] at hroom
    have hlt : r.field.length < limit := by omega
    have hstep : step d limit r (some c) = some (held r (r.field ++ [c]) .inField) := by
      rcases hmode with hstart | hmode
      · rw [step_first hstart hcr hlf, if_neg hquote, if_neg hdelim]
        simp [Reader.add, hlt, held]
      · simp [step, hmode, hcr, hlf, hdelim, Reader.add, hlt, held]
    cases q with
    | nil =>
      refine ⟨[r.fields ++ [r.field ++ [c]]], le_refl 1, ?_⟩
      rw [feed, hstep]
      simp [feed, step, held, endsLine, Reader.save, Reader.emit, Reader.finish]
    | cons c' q =>
      rw [feed_cons_of_ordinary hcr hlf (List.cons_ne_nil _ _), hstep, Option.bind_some]
      refine ih (r := held r (r.field ++ [c]) .inField) (List.cons_ne_nil _ _)
        (fun c'' hc'' => hq c'' (List.mem_cons_of_mem c hc'')) (Or.inr rfl) ?_
      simp only [held, List.length_append, List.length_singleton]
      omega

lemma torn_quoted (hr : AtStart r) {f q : List α} (hf : f.length ≤ limit)
    (hq : q <+: quoted d f) (hne : q ≠ []) : AtMostOneMore r.rows (feed d limit r q) := by
  obtain rfl | ⟨t, rfl, ht⟩ := List.prefix_cons_iff.mp hq
  · exact absurd rfl hne
  · have hopen : step d limit r (some d.quote) = some { r with mode := .inQuoted } := by
      rw [step_first hr (quote_ne d).1 (quote_ne d).2, if_pos rfl]
    have hend : step d limit { r with mode := .inQuoted } none =
        some { r with mode := .inQuoted } := by simp [step]
    have hroom : ({ r with mode := .inQuoted } : Reader α).field.length + f.length ≤ limit := by
      simpa [hr.2] using hf
    rw [feed, hopen, Option.bind_some, hend, ite_self, Option.bind_some]
    exact torn_escape f ht rfl hroom

/-- The text may end in a field, if not before it. -/
lemma torn_writeField (hr : AtStart r) {f q : List α} (hf : f.length ≤ limit)
    (hq : q <+: writeField d f) (hne : q ≠ []) : AtMostOneMore r.rows (feed d limit r q) := by
  unfold writeField at hq
  split at hq
  · exact torn_quoted hr hf hq hne
  · next hplain =>
    have hordinary : ∀ c ∈ f, special d c = false := by simpa using hplain
    refine torn_plain hne (fun c hc => hordinary c (hq.subset hc)) (Or.inl hr) ?_
    rw [hr.2]
    simpa using hq.length_le.trans hf

/-- The text may end at the end of a row. -/
lemma torn_newline (hr : AtStart r) {f : List α} {mode : Mode} (hmode : Behind r f mode)
    (hrecord : mode ≠ .startRecord) {q : List α} (hq : q <+: [d.cr, d.lf]) (hne : q ≠ []) :
    AtMostOneMore r.rows (feed d limit (held r f mode) q) := by
  obtain rfl | ⟨t, rfl, ht⟩ := List.prefix_cons_iff.mp hq
  · exact absurd rfl hne
  · refine ⟨[r.fields ++ [f]], le_refl 1, ?_⟩
    obtain rfl | ⟨u, rfl, hu⟩ := List.prefix_cons_iff.mp ht
    · rw [feed, step_newline hr hmode hrecord]
      simp [feed, endsLine, step, Reader.emit, Reader.finish, hr.2]
    · obtain rfl := List.prefix_nil.mp hu
      rw [feed_newline hr hmode hrecord]
      simp [feed, Reader.finish, hr.2]

/-- The text may end anywhere in a row. -/
lemma torn_joinFields {row : List (List α)} (hr : AtStart r) (hne : row ≠ [])
    (hempty : r.mode = .startRecord → row ≠ [[]]) (hrow : ∀ f ∈ row, f.length ≤ limit)
    {q : List α} (hq : q <+: joinFields d row ++ [d.cr, d.lf]) (hqne : q ≠ []) :
    AtMostOneMore r.rows (feed d limit r q) := by
  induction row generalizing r q with
  | nil => exact absurd rfl hne
  | cons f row ih =>
    have hf : f.length ≤ limit := hrow f List.mem_cons_self
    cases row with
    | nil =>
      rw [joinFields] at hq
      rcases prefix_append_cases hq with hq | ⟨t, htne, ht, rfl⟩
      · exact torn_writeField hr hf hq hqne
      · obtain ⟨mode, hmode, hfeed⟩ := feed_writeField (d := d) hr hf htne
        rw [hfeed]
        refine torn_newline hr hmode (fun hrecord => ?_) ht htne
        rcases hmode with rfl | rfl | ⟨rfl, rfl⟩
        · cases hrecord
        · cases hrecord
        · exact hempty hrecord rfl
    | cons g row =>
      rw [joinFields, List.append_assoc, List.cons_append] at hq
      rcases prefix_append_cases hq with hq | ⟨t, htne, ht, rfl⟩
      · exact torn_writeField hr hf hq hqne
      · obtain ⟨mode, hmode, hfeed⟩ := feed_writeField (d := d) hr hf htne
        have hnext : AtStart
            ({ r with mode := .startField, fields := r.fields ++ [f] } : Reader α) :=
          ⟨Or.inr rfl, hr.2⟩
        rw [hfeed]
        obtain rfl | ⟨u, rfl, hu⟩ := List.prefix_cons_iff.mp ht
        · exact absurd rfl htne
        · cases u with
          | nil =>
            -- the delimiter is the last character: an empty field follows it
            refine ⟨[r.fields ++ [f] ++ [[]]], le_refl 1, ?_⟩
            rw [feed, step_delimiter hr hmode]
            simp [feed, endsLine, step, Reader.save, Reader.emit, Reader.finish, hr.2]
          | cons c u =>
            rw [feed_cons_of_ordinary (delimiter_ne d).2.1 (delimiter_ne d).2.2
              (List.cons_ne_nil _ _), step_delimiter hr hmode, Option.bind_some]
            exact ih hnext (List.cons_ne_nil _ _) nofun
              (fun f' hf' => hrow f' (List.mem_cons_of_mem f hf')) hu (List.cons_ne_nil _ _)

/-- **A torn table**: of a text that ends anywhere in its last row the rows before it are read,
and at most one more. -/
theorem readRows_torn {rows : List (List (List α))} (h : ∀ row ∈ rows, Readable limit row)
    {row : List (List α)} (hrow : Readable limit row) {q : List α} (hq : q <+: writeRow d row) :
    ∃ more : List (List (List α)), more.length ≤ 1 ∧
      readRows d limit (writeRows d rows ++ q) = some (rows ++ more) := by
  have hfeed := feed_writeRows (d := d) (s := q) h []
  have hempty : (between [] : Reader α) = {} := rfl
  have hstart : AtStart (between rows : Reader α) := ⟨Or.inl rfl, rfl⟩
  rw [readRows, ← hempty, hfeed, List.nil_append]
  rcases eq_or_ne q [] with rfl | hqne
  · exact ⟨[], Nat.zero_le 1, by simp [feed, between, Reader.finish]⟩
  · unfold writeRow at hq
    split at hq
    · rcases prefix_append_cases hq with hq | ⟨t, htne, ht, rfl⟩
      · exact torn_quoted hstart (Nat.zero_le _) hq hqne
      · rw [feed_quoted hstart (Nat.zero_le _) htne]
        exact torn_newline hstart (Or.inr (Or.inl rfl)) nofun ht htne
    · next hsingle =>
      exact torn_joinFields hstart hrow.1 (fun _ => hsingle) hrow.2 hq hqne

end CrdbLab.Lib.Csv
