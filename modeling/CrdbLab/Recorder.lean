import CrdbLab.Lib.Csv
import CrdbLab.Lib.Dictionary
import CrdbLab.Lib.OrderStat
import CrdbLab.RowMatch
import Mathlib.Data.String.Basic

/-!
The recorder of a run, and its tables read back.

A writer takes only rows that match its schema exactly and leaves every other row out without a
trace. Each row is flushed when it is written, so that a run that is killed leaves the rows before
the one that was being written. The file is text here: a row is cut between two characters.
-/

namespace CrdbLab.Recorder

open CrdbLab.Lib.Csv CrdbLab.Lib.Dictionary CrdbLab.Lib.OrderStat
open CrdbLab.RowMatch (reprList)

def schemaVersion : String := "2.1"

/-- The dialect both sides use. -/
def excel : Dialect Char where
  delimiter := ','
  quote := Char.ofNat 34
  cr := Char.ofNat 13
  lf := Char.ofNat 10
  distinct := by decide

/-- How long a field may be, in characters. -/
def fieldLimit : ℕ := 131072

/-- The columns of a table. -/
structure Schema where
  columns : List String
  distinct : columns.Nodup
  nonempty : columns ≠ []
  short : ∀ c ∈ columns, c.toList.length ≤ fieldLimit

def auditSchema : Schema where
  columns := ["wall_offset_s", "seq_id", "outcome"]
  distinct := by decide
  nonempty := List.cons_ne_nil _ _
  short := by decide

/-! ### Writing -/

section Writer

-- the values of the cells, with the text each is written as
variable {V : Type} (text : V → String) (schema : Schema)

structure MetricsWriter where
  file : List Char
  rowsWritten : ℕ := 0
  deriving DecidableEq, Repr

def headerLine : List Char := writeRow excel (schema.columns.map String.toList)

def openWriter : MetricsWriter := { file := headerLine schema }

/-- What a column of the row is written as. -/
def cellText (row : Dict String V) (column : String) : String :=
  ((row.get? column).map text).getD ""

def rowTexts (row : Dict String V) : List (List Char) :=
  schema.columns.map fun column => (cellText text row column).toList

def missing (row : Dict String V) : List String :=
  sorted (schema.columns.filter fun c => c ∉ row.entries.map Prod.fst)

def unexpected (row : Dict String V) : List String :=
  sorted ((row.entries.map Prod.fst).filter fun c => c ∉ schema.columns)

def write (w : MetricsWriter) (row : Dict String V) : Except String MetricsWriter :=
  if missing schema row ≠ [] ∨ unexpected schema row ≠ [] then
    .error ("row does not match schema " ++ schemaVersion ++ ": missing=" ++
      reprList (missing schema row) ++ " unexpected=" ++ reprList (unexpected schema row))
  else
    .ok
      { file := w.file ++ writeRow excel (rowTexts text schema row)
        rowsWritten := w.rowsWritten + 1 }

/-- The writer after a row was offered, whether it was taken or not. -/
def offer (w : MetricsWriter) (row : Dict String V) : MetricsWriter :=
  match write text schema w row with
  | .ok w => w
  | .error _ => w

/-- The rows in turn; at one that does not match it ends. -/
def writeMany (w : MetricsWriter) : List (Dict String V) → MetricsWriter × Option String
  | [] => (w, none)
  | row :: rows =>
    match write text schema w row with
    | .ok w => writeMany w rows
    | .error message => (w, some message)

end Writer

/-! ### Reading -/

/-- A row by its columns: what is missing at the end has no value, and what is too much is kept
apart. -/
structure Record where
  fields : Dict String (Option String)
  rest : Option (List String)
  deriving DecidableEq, Repr

def recordOf (fieldnames row : List String) : Record where
  fields := .ofList ((fieldnames.zip (row.map some)) ++
    (fieldnames.drop row.length).map fun name => (name, none))
  rest := if fieldnames.length < row.length then some (row.drop fieldnames.length) else none

/-- The records of a table; an empty line is none. -/
def dictReader (file : List Char) : Option (List Record) :=
  (readRows excel fieldLimit file).map fun rows =>
    match rows.map (List.map String.ofList) with
    | [] => []
    | fieldnames :: rows => (rows.filter (· ≠ [])).map (recordOf fieldnames)

/-! ### What is taken -/

variable {V : Type} {text : V → String} {schema : Schema}

/-- The row has exactly the columns of the schema. -/
def Matches (schema : Schema) (row : Dict String V) : Prop :=
  ∀ c, c ∈ row.entries.map Prod.fst ↔ c ∈ schema.columns

instance (schema : Schema) (row : Dict String V) : Decidable (Matches schema row) :=
  decidable_of_iff ((∀ c ∈ row.entries.map Prod.fst, c ∈ schema.columns) ∧
    ∀ c ∈ schema.columns, c ∈ row.entries.map Prod.fst)
    ⟨fun h c => ⟨h.1 c, h.2 c⟩, fun h => ⟨fun c => (h c).mp, fun c => (h c).mpr⟩⟩

lemma sorted_eq_nil {l : List String} : sorted l = [] ↔ l = [] := by
  rw [← List.length_eq_zero_iff, ← List.length_eq_zero_iff, CrdbLab.Lib.KeySort.length_sortOn]

variable (text schema) in
lemma write_eq (w : MetricsWriter) (row : Dict String V) :
    (Matches schema row ∧ write text schema w row =
      .ok ⟨w.file ++ writeRow excel (rowTexts text schema row), w.rowsWritten + 1⟩) ∨
    (¬ Matches schema row ∧ ∃ message, write text schema w row = .error message) := by
  have hmatches : Matches schema row ↔ missing schema row = [] ∧ unexpected schema row = [] := by
    simp only [missing, unexpected, sorted_eq_nil, List.filter_eq_nil_iff, decide_eq_true_eq,
      not_not]
    exact ⟨fun h => ⟨fun c => (h c).mpr, fun c => (h c).mp⟩, fun h c => ⟨h.2 c, h.1 c⟩⟩
  unfold write
  split
  · next h =>
    refine Or.inr ⟨fun hm => ?_, _, rfl⟩
    obtain ⟨hmissing, hunexpected⟩ := hmatches.mp hm
    exact h.elim (fun hne => hne hmissing) fun hne => hne hunexpected
  · next h =>
    rw [not_or, not_not, not_not] at h
    exact Or.inl ⟨hmatches.mpr h, rfl⟩

/-- The rows of those offered that are taken. -/
def taken (schema : Schema) (rows : List (Dict String V)) : List (Dict String V) :=
  rows.filter fun row => Matches schema row

/-- The table with these rows. -/
def tableOf (text : V → String) (schema : Schema) (rows : List (Dict String V)) : List Char :=
  writeRows excel (schema.columns.map String.toList :: rows.map (rowTexts text schema))

lemma tableOf_append_singleton (rows : List (Dict String V)) (row : Dict String V) :
    tableOf text schema (rows ++ [row]) =
      tableOf text schema rows ++ writeRow excel (rowTexts text schema row) := by
  simp [tableOf, writeRows]

/-- **Every run of offers** leaves the table of the rows that were taken. -/
lemma foldl_offer (rows : List (Dict String V)) :
    rows.foldl (offer text schema) (openWriter schema) =
      ⟨tableOf text schema (taken schema rows), (taken schema rows).length⟩ := by
  induction rows using List.reverseRecOn with
  | nil =>
    simp [openWriter, headerLine, tableOf, taken, writeRows]
  | append_singleton rows row ih =>
    rw [List.foldl_append, ih, List.foldl_cons, List.foldl_nil, offer]
    rcases write_eq text schema
      ⟨tableOf text schema (taken schema rows), (taken schema rows).length⟩ row with
      ⟨hmatches, hwrite⟩ | ⟨hmatches, message, hwrite⟩
    · have htaken : taken schema (rows ++ [row]) = taken schema rows ++ [row] := by
        simp [taken, hmatches]
      rw [hwrite, htaken, tableOf_append_singleton]
      simp
    · have htaken : taken schema (rows ++ [row]) = taken schema rows := by
        simp [taken, hmatches]
      rw [hwrite, htaken]

/-- Of many rows those before the first that does not match are written. -/
lemma writeMany_eq (w : MetricsWriter) (rows : List (Dict String V)) :
    (writeMany text schema w rows).1 =
        (rows.takeWhile fun row => Matches schema row).foldl (offer text schema) w ∧
      ((writeMany text schema w rows).2 = none ↔ ∀ row ∈ rows, Matches schema row) := by
  induction rows generalizing w with
  | nil => simp [writeMany]
  | cons row rows ih =>
    rcases write_eq text schema w row with
      ⟨hmatches, hwrite⟩ | ⟨hmatches, message, hwrite⟩
    · obtain ⟨hfile, hnone⟩ := ih
        ⟨w.file ++ writeRow excel (rowTexts text schema row), w.rowsWritten + 1⟩
      simp [writeMany, hwrite, hmatches, offer, hfile, hnone]
    · simp [writeMany, hwrite, hmatches]

/-! ### What is read back -/

variable (text schema) in
/-- The record of a row that was taken. -/
def asRecord (row : Dict String V) : Record where
  fields := ⟨schema.columns.map fun c => (c, some (cellText text row c)), by
    rw [List.map_map]
    exact (List.map_id schema.columns).symm ▸ schema.distinct⟩
  rest := none

lemma zip_map_self {β γ : Type} (l : List β) (f : β → γ) :
    l.zip (l.map f) = l.map fun b => (b, f b) := by
  induction l with
  | nil => rfl
  | cons b l ih => rw [List.map_cons, List.zip_cons_cons, ih, List.map_cons]

lemma recordOf_rowTexts (row : Dict String V) :
    recordOf schema.columns ((rowTexts text schema row).map String.ofList) =
      asRecord text schema row := by
  have htexts : (rowTexts text schema row).map String.ofList =
      schema.columns.map (cellText text row) := by
    rw [rowTexts, List.map_map]
    exact List.map_congr_left fun c _ => String.ofList_toList
  have hentries : (schema.columns.zip ((schema.columns.map (cellText text row)).map some)) ++
      (schema.columns.drop (schema.columns.map (cellText text row)).length).map
        (fun name => (name, none)) =
      (asRecord text schema row).fields.entries := by
    rw [List.map_map, zip_map_self, List.length_map, List.drop_length]
    simp [asRecord]
  have hfields := Dict.entries_ofList (asRecord text schema row).fields.nodup
  rw [htexts, recordOf, hentries, if_neg (by simp)]
  exact congrArg (fun d => Record.mk d none) (Dict.ext hfields)

/-- The texts of the row are not longer than a reader takes. -/
def Fits (text : V → String) (schema : Schema) (row : Dict String V) : Prop :=
  ∀ c ∈ schema.columns, (cellText text row c).toList.length ≤ fieldLimit

lemma readable_header (schema : Schema) :
    Readable fieldLimit (schema.columns.map String.toList) := by
  refine ⟨by simpa using schema.nonempty, fun f hf => ?_⟩
  obtain ⟨c, hc, rfl⟩ := List.mem_map.mp hf
  exact schema.short c hc

lemma readable_rowTexts {row : Dict String V} (h : Fits text schema row) :
    Readable fieldLimit (rowTexts text schema row) := by
  refine ⟨by simpa [rowTexts] using schema.nonempty, fun f hf => ?_⟩
  obtain ⟨c, hc, rfl⟩ := List.mem_map.mp hf
  exact h c hc

lemma readable_table {rows : List (Dict String V)} (h : ∀ row ∈ rows, Fits text schema row) :
    ∀ f ∈ schema.columns.map String.toList :: rows.map (rowTexts text schema),
      Readable fieldLimit f := by
  intro f hf
  rcases List.mem_cons.mp hf with rfl | hf
  · exact readable_header schema
  · obtain ⟨row, hrow, rfl⟩ := List.mem_map.mp hf
    exact readable_rowTexts (h row hrow)

/-- The records of a table of which at most the last row is not whole. -/
lemma dictReader_of_readRows {file : List Char} {rows : List (Dict String V)}
    {more : List (List (List Char))}
    (h : readRows excel fieldLimit file =
      some (schema.columns.map String.toList :: rows.map (rowTexts text schema) ++ more)) :
    ∃ rest : List Record, rest.length ≤ more.length ∧
      dictReader file = some (rows.map (asRecord text schema) ++ rest) := by
  refine ⟨((more.map (List.map String.ofList)).filter (· ≠ [])).map (recordOf schema.columns),
    ?_, ?_⟩
  · rw [List.length_map]
    exact (List.length_filter_le _ _).trans (List.length_map _).le
  · have hheader : (schema.columns.map String.toList).map String.ofList = schema.columns := by
      rw [List.map_map]
      exact (List.map_congr_left fun c _ => String.ofList_toList).trans (List.map_id _)
    have hkept : ((rows.map (rowTexts text schema)).map (List.map String.ofList)).filter
        (· ≠ []) = (rows.map (rowTexts text schema)).map (List.map String.ofList) := by
      refine List.filter_eq_self.mpr fun f hf => ?_
      simp only [List.mem_map, exists_exists_and_eq_and] at hf
      obtain ⟨row, -, rfl⟩ := hf
      simpa [rowTexts] using schema.nonempty
    rw [dictReader, h, Option.map_some, List.cons_append, List.map_cons, hheader]
    have hrecords : ((rows.map (rowTexts text schema)).map (List.map String.ofList)).map
        (recordOf schema.columns) = rows.map (asRecord text schema) := by
      rw [List.map_map, List.map_map]
      exact List.map_congr_left fun row _ => recordOf_rowTexts row
    refine congrArg some ?_
    rw [List.map_append]
    dsimp only
    rw [List.filter_append, hkept, List.map_append, hrecords]

variable (text schema) in
/-- **The recorder keeps what it takes**: after any offers of rows the table reads back as the
rows that were taken, each value under its column. Of many rows those before the first that does
not match are taken. If the run is killed while another row is written, whatever characters of that
row are in the file, the rows read back before at most one more. -/
theorem dictReader_of_offers (rows : List (Dict String V))
    (hfits : ∀ row ∈ taken schema rows, Fits text schema row) :
    let w := rows.foldl (offer text schema) (openWriter schema)
    w.rowsWritten = (taken schema rows).length ∧
    dictReader w.file = some ((taken schema rows).map (asRecord text schema)) ∧
    (∀ many, (writeMany text schema w many).1 =
        (many.takeWhile fun row => Matches schema row).foldl (offer text schema) w ∧
      ((writeMany text schema w many).2 = none ↔ ∀ row ∈ many, Matches schema row)) ∧
    ∀ next, Fits text schema next → ∀ torn, torn <+: writeRow excel (rowTexts text schema next) →
      ∃ rest : List Record, rest.length ≤ 1 ∧
        dictReader (w.file ++ torn) =
          some ((taken schema rows).map (asRecord text schema) ++ rest) := by
  intro w
  have hw : w = ⟨tableOf text schema (taken schema rows), (taken schema rows).length⟩ :=
    foldl_offer rows
  have hreadable := readable_table hfits
  rw [hw]
  refine ⟨rfl, ?_, writeMany_eq _, fun next hnext torn htorn => ?_⟩
  · have hread := readRows_writeRows (d := excel) hreadable
    have hnone : ∀ l : List (List (List Char)), some l = some (l ++ []) := fun l => by
      rw [List.append_nil]
    obtain ⟨rest, hrest, hdict⟩ := dictReader_of_readRows (hread.trans (hnone _))
    rw [List.length_nil, Nat.le_zero, List.length_eq_zero_iff] at hrest
    rw [tableOf, hdict, hrest, List.append_nil]
  · obtain ⟨more, hmore, hread⟩ := readRows_torn (d := excel) hreadable (readable_rowTexts hnext)
      htorn
    obtain ⟨rest, hrest, hdict⟩ := dictReader_of_readRows hread
    exact ⟨rest, hrest.trans hmore, hdict⟩

def quotedRow : Dict String String :=
  .ofList [("outcome", "ack, \"late\"\n"), ("seq_id", "7"), ("wall_offset_s", "1.5")]

def shortRow : Dict String String := .ofList [("seq_id", "8"), ("outcome", "ack")]

theorem quotedRow_kept :
    dictReader
        ([shortRow, quotedRow].foldl (offer id auditSchema) (openWriter auditSchema)).file =
      some [asRecord id auditSchema quotedRow] :=
  have htaken : taken auditSchema [shortRow, quotedRow] = [quotedRow] := by decide
  have hfits : ∀ row ∈ [quotedRow], Fits id auditSchema row := by
    unfold Fits
    decide
  (dictReader_of_offers id auditSchema [shortRow, quotedRow]
    (htaken ▸ hfits)).2.1.trans (by rw [htaken]; rfl)

end CrdbLab.Recorder
