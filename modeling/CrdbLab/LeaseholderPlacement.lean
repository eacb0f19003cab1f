import CrdbLab.Preflight
import CrdbLab.RowMatch
import CrdbLab.ManifestNotes
import CrdbLab.Lib.Dictionary
import Mathlib.Data.Bool.AllAny

/-!
Where the leaseholders of a database are.

A reading lists localities with the number of leases each holds. The check asks whether the
expected region is written anywhere in a locality, so that the name of one region is found in
another that begins with it.
-/

namespace CrdbLab.LeaseholderPlacement

open CrdbLab.Lib.Rounding CrdbLab.Lib.Numeral CrdbLab.Lib.Dictionary
open CrdbLab.Preflight CrdbLab.ManifestNotes

inductive ReadError
  /-- What stands for a count is no integer. -/
  | invalidCount (text : String)
  /-- The time to sleep is negative. -/
  | negativeSleep
  deriving DecidableEq, Repr

/-- The mark around a field that contains commas. -/
def quote : Char := Char.ofNat 34

/-- `str.rpartition`, without the separator itself. -/
def rpartition (sep : Char) (s : List Char) : List Char × List Char :=
  (((s.reverse.dropWhile (· ≠ sep)).drop 1).reverse, (s.reverse.takeWhile (· ≠ sep)).reverse)

/-- The lines after the header that are not blank. -/
def dataLines (stdout : String) : List (List Char) :=
  ((pieces isLineBreak (strip isSpace stdout.toList)).drop 1).filter fun line =>
    strip isSpace line ≠ []

/-- The locality itself contains commas, so a line is split from the right. -/
def addLine (distribution : Dict String ℤ) (line : List Char) :
    Except ReadError (Dict String ℤ) :=
  let (locality, count) := rpartition ',' (line.filter (· ≠ quote))
  if locality = [] then .ok distribution
  else
    match int (String.ofList count) with
    | none => .error (.invalidCount (String.ofList count))
    | some n => .ok (distribution.set (String.ofList locality) n)

structure Reading where
  passed : Bool
  detail : String
  distribution : Option (Dict String ℤ)
  deriving DecidableEq, Repr

/-- The leases of the localities in which the region is written. -/
def localLeases (distribution : Dict String ℤ) (expectedRegion : String) : ℤ :=
  (distribution.filter fun loc _ => decide (expectedRegion.toList <:+: loc.toList)).values.sum

def reprDistribution (distribution : Dict String ℤ) : String :=
  "\x7b" ++ ", ".intercalate (distribution.entries.map fun e =>
    RowMatch.reprStr e.1 ++ ": " ++ toString e.2) ++ "\x7d"

/-- One reading of the placement. -/
def readLeaseholderPlacement (result : RemoteResult) (database expectedRegion : String) :
    Except ReadError Reading :=
  if result.returncode ≠ 0 then
    .ok ⟨false, "could not read leaseholders for database " ++ RowMatch.reprStr database ++ ": " ++
      firstText result, none⟩
  else do
    let distribution ← (dataLines result.stdout).foldlM addLine Dict.empty
    if distribution.entries = [] then
      return ⟨false, "database " ++ RowMatch.reprStr database ++
        " has no ranges; has the working set been loaded?", none⟩
    else
      let total := distribution.values.sum
      let here := localLeases distribution expectedRegion
      return ⟨here = total, toString here ++ "/" ++ toString total ++ " " ++ database ++
        " leaseholders in " ++ RowMatch.reprStr expectedRegion ++
        (if here = total then "" else "; distribution " ++ reprDistribution distribution),
        some distribution⟩

/-! ### Waiting -/

/-- A round of the loop: what the command answered, and the clock after the reading, at the
test of the deadline and before the sleep. -/
structure Round where
  result : RemoteResult
  readAt : ℚ
  testedAt : ℚ
  sleepsAt : ℚ
  deriving DecidableEq, Repr

structure Placement where
  database : String
  expectedRegion : String
  waitedS : ℚ
  distribution : Option (Dict String ℤ)
  deriving DecidableEq, Repr

section Waiting

variable (database expectedRegion : String) (pollIntervalS deadline started : ℚ)

/-- Takes readings until one passes or the deadline is reached; waits for more while there are
none. -/
def settle : List Round → Option (Except ReadError (Reading × ℚ))
  | [] => none
  | round :: rest =>
    match readLeaseholderPlacement round.result database expectedRegion with
    | .error e => some (.error e)
    | .ok reading =>
      if reading.passed ∨ deadline ≤ round.testedAt then
        some (.ok (reading, round.readAt - started))
      else if min pollIntervalS (max (deadline - round.sleepsAt) 0) < 0 then
        some (.error .negativeSleep)
      else settle rest

end Waiting

/-- The check on the leaseholders, with the clock when the deadline is set and when the waiting
starts. -/
def checkLeaseholderPlacement (report : PreflightReport Placement)
    (database expectedRegion : String) (settleTimeoutS pollIntervalS setAt started : ℚ)
    (rounds : List Round) : Option (Except ReadError (PreflightReport Placement)) :=
  (settle database expectedRegion pollIntervalS (setAt + max settleTimeoutS 0) started rounds).map
    fun outcome => outcome.map fun (reading, waitedS) =>
      report.add
        { name := "leaseholder_placement"
          passed := reading.passed
          detail :=
            if 0 < settleTimeoutS ∧ pollIntervalS ≤ waitedS then
              reading.detail ++ " (after waiting " ++ fixed 0 waitedS ++
                "s for placement to settle)"
            else reading.detail
          observed := ⟨database, expectedRegion, roundTo 1 waitedS, reading.distribution⟩ }

/-! ### A listing of localities -/

/-- A locality with the number of leases it holds, an integer of 64 bits. -/
structure Row where
  cloud : String
  region : String
  count : ℕ
  plain : ∀ c ∈ cloud.toList ++ region.toList, c ≠ quote ∧ c ≠ ',' ∧ isLineBreak c = false
  positive : 0 < count
  bounded : count < 2 ^ 63

def Row.locality (row : Row) : String := "cloud=" ++ row.cloud ++ ",region=" ++ row.region

def Row.line (row : Row) : List Char :=
  quote :: row.locality.toList ++ quote :: ',' :: Nat.toDigits 10 row.count

/-- What the query answers: the header and a line for each locality. -/
structure Listing where
  rows : List Row
  nonempty : rows ≠ []
  distinct : (rows.map Row.locality).Nodup

def header : List Char := "lease_holder_locality,count".toList

def Listing.text (l : Listing) : List Char :=
  header ++ l.rows.flatMap (fun row => newline :: row.line) ++ [newline]

def Listing.result (l : Listing) (stderr : String) : RemoteResult :=
  ⟨0, String.ofList l.text, stderr⟩

lemma Row.plain_locality (row : Row) :
    ∀ c ∈ row.locality.toList, c ≠ quote ∧ isLineBreak c = false := by
  intro c hc
  have hfixed : ∀ d ∈ "cloud=".toList ++ ",region=".toList, d ≠ quote ∧ isLineBreak d = false :=
    List.all_iff_forall_prop.mp (by decide)
  simp only [Row.locality, String.toList_append, List.mem_append] at hc
  rcases hc with ((hc | hc) | hc) | hc
  · exact hfixed c (List.mem_append_left _ hc)
  · have hplain := row.plain c (by simp [hc])
    exact ⟨hplain.1, hplain.2.2⟩
  · exact hfixed c (List.mem_append_right _ hc)
  · have hplain := row.plain c (by simp [hc])
    exact ⟨hplain.1, hplain.2.2⟩

lemma isLineBreak_toDigits {n : ℕ} {c : Char} (h : c ∈ Nat.toDigits 10 n) :
    isLineBreak c = false := by
  obtain ⟨d, hd, rfl⟩ := exists_of_mem_toDigits h
  have hall : ∀ d < 10, isLineBreak (Nat.digitChar d) = false := by decide
  exact hall d hd

lemma Row.line_unbroken (row : Row) : ∀ c ∈ row.line, isLineBreak c = false := by
  intro c hc
  simp only [Row.line, List.cons_append, List.mem_cons, List.mem_append] at hc
  rcases hc with rfl | hc | rfl | rfl | hc
  · decide
  · exact (row.plain_locality c hc).2
  · decide
  · decide
  · exact isLineBreak_toDigits hc

/-- A line ends with the last digit of its count. -/
lemma Row.getLast?_line (row : Row) : ∀ c ∈ row.line.getLast?, isSpace c = false := by
  intro c hc
  have hdigits : Nat.toDigits 10 row.count ≠ [] := Nat.toDigits_ne_nil
  have hsplit : row.line = (quote :: row.locality.toList ++ [quote, ',']) ++
      Nat.toDigits 10 row.count := by simp [Row.line]
  rw [hsplit, List.getLast?_append_of_ne_nil _ hdigits] at hc
  exact isSpace_toDigits (List.mem_of_mem_getLast? hc)

lemma Row.strip_line (row : Row) : strip isSpace row.line = row.line := by
  refine strip_of_ends (fun c hc => ?_) row.getLast?_line
  obtain rfl : quote = c := Option.some.inj hc
  decide

/-! ### The listing read -/

lemma rpartition_append {sep : Char} {w : List Char} (hw : sep ∉ w) (s : List Char) :
    rpartition sep (s ++ sep :: w) = (s, w) := by
  have hrev : (s ++ sep :: w).reverse = w.reverse ++ sep :: s.reverse := by simp
  have hall : ∀ c ∈ w.reverse, decide (c ≠ sep) = true := by
    intro c hc
    simpa using fun he : c = sep => hw (he ▸ List.mem_reverse.mp hc)
  unfold rpartition
  rw [hrev, List.dropWhile_append_of_pos hall, List.takeWhile_append_of_pos hall]
  simp

lemma addLine_line (distribution : Dict String ℤ) (row : Row) :
    addLine distribution row.line = .ok (distribution.set row.locality row.count) := by
  have hlocality : row.locality.toList.filter (· ≠ quote) = row.locality.toList :=
    List.filter_eq_self.mpr fun c hc => by simpa using (row.plain_locality c hc).1
  have hdigits : (Nat.toDigits 10 row.count).filter (· ≠ quote) = Nat.toDigits 10 row.count := by
    refine List.filter_eq_self.mpr fun c hc => ?_
    simpa using fun he : c = quote => not_mem_toDigits (by decide) (he ▸ hc)
  have hfilter : row.line.filter (· ≠ quote) =
      row.locality.toList ++ ',' :: Nat.toDigits 10 row.count := by
    rw [Row.line, List.cons_append, List.filter_cons_of_neg (by simp), List.filter_append,
      List.filter_cons_of_neg (by simp), List.filter_cons_of_pos (by decide), hlocality, hdigits]
  have hbound : row.count < 10 ^ maxDigits :=
    calc row.count < 2 ^ 63 := row.bounded
      _ ≤ 10 ^ 19 := by norm_num
      _ ≤ 10 ^ maxDigits := Nat.pow_le_pow_right (by decide) (by decide)
  have hne : row.locality.toList ≠ [] := by simp [Row.locality]
  unfold addLine
  rw [hfilter, rpartition_append (not_mem_toDigits (by decide))]
  simp only [if_neg hne, int_toDigits hbound, String.ofList_toList]

lemma foldlM_addLine (rows : List Row) (distribution : Dict String ℤ) :
    (rows.map Row.line).foldlM addLine distribution =
      .ok (rows.foldl (fun d row => d.set row.locality row.count) distribution) := by
  induction rows generalizing distribution with
  | nil => rfl
  | cons row rows ih =>
    rw [List.map_cons, List.foldlM_cons, addLine_line]
    exact ih _

lemma pieces_lines (rows : List Row) {w : List Char} (hne : w ≠ [])
    (hw : ∀ c ∈ w, isLineBreak c = false) :
    pieces isLineBreak (w ++ rows.flatMap fun row => newline :: row.line) =
      w :: rows.map Row.line := by
  induction rows generalizing w with
  | nil => simpa using pieces_of_absent hne hw
  | cons row rows ih =>
    rw [List.flatMap_cons, List.cons_append, pieces_append_cons hne hw (by decide),
      ih (by simp [Row.line]) row.line_unbroken, List.map_cons]

/-- The text ends with the last line. -/
lemma Listing.strip_text (l : Listing) :
    strip isSpace l.text = header ++ l.rows.flatMap fun row => newline :: row.line := by
  have hhead : ∀ c ∈ l.text.head?, isSpace c = false := by
    have hheader : ∀ c ∈ header.head?, isSpace c = false := by
      have hl : header.head? = some 'l' := by decide
      rw [hl]
      rintro c ⟨⟩
      decide
    have hne : header ≠ [] := by decide
    rw [Listing.text, List.append_assoc, List.head?_append_of_ne_nil _ hne]
    exact hheader
  rw [strip, dropWhile_eq_self hhead, Listing.text, rstrip_append_singleton, if_pos (by decide)]
  refine rstrip_eq_self ?_
  obtain ⟨rows, row, hrows⟩ := List.eq_nil_or_concat l.rows |>.resolve_left l.nonempty
  have hline : row.line ≠ [] := by simp [Row.line]
  rw [hrows, List.concat_eq_append, List.flatMap_append, List.flatMap_singleton,
    ← List.append_assoc, List.append_cons, List.getLast?_append_of_ne_nil _ hline]
  exact row.getLast?_line

lemma Listing.dataLines_text (l : Listing) :
    dataLines (String.ofList l.text) = l.rows.map Row.line := by
  have hheader : ∀ c ∈ header, isLineBreak c = false :=
    List.all_iff_forall_prop.mp (by decide)
  have hne : header ≠ [] := by decide
  rw [dataLines, String.toList_ofList, l.strip_text, pieces_lines l.rows hne hheader,
    List.drop_one, List.tail_cons]
  refine List.filter_eq_self.mpr fun line hline => ?_
  obtain ⟨row, -, rfl⟩ := List.mem_map.mp hline
  rw [row.strip_line]
  simp [Row.line]

/-- The listing as a dictionary. -/
def Listing.entries (l : Listing) : List (String × ℤ) :=
  l.rows.map fun row => (row.locality, (row.count : ℤ))

lemma Listing.foldlM_dataLines (l : Listing) :
    (dataLines (String.ofList l.text)).foldlM addLine Dict.empty = .ok (Dict.ofList l.entries) := by
  rw [l.dataLines_text, foldlM_addLine, Dict.ofList, Listing.entries, List.foldl_map]

lemma Listing.entries_ofList (l : Listing) : (Dict.ofList l.entries).entries = l.entries := by
  refine Dict.entries_ofList ?_
  rw [Listing.entries, List.map_map]
  exact l.distinct

/-- The counts of the elements kept add up to the total only if all are kept. -/
lemma sum_filter_eq_iff {A : Type} {l : List A} {f : A → ℤ} (hpos : ∀ a ∈ l, 0 < f a)
    (p : A → Bool) :
    ((l.filter p).map f).sum = (l.map f).sum ↔ ∀ a ∈ l, p a = true := by
  induction l with
  | nil => simp
  | cons a l ih =>
    have hrest : ∀ b ∈ l, 0 < f b := fun b hb => hpos b (List.mem_cons_of_mem a hb)
    rw [List.forall_mem_cons, List.map_cons, List.sum_cons]
    by_cases ha : p a = true
    · rw [List.filter_cons_of_pos ha, List.map_cons, List.sum_cons, add_right_inj, ih hrest]
      simp [ha]
    · -- without this element the sum is too small already
      have hle : ((l.filter p).map f).sum ≤ (l.map f).sum :=
        (List.filter_sublist.map f).sum_le_sum fun c hc => by
          obtain ⟨b, hb, rfl⟩ := List.mem_map.mp hc
          exact (hrest b hb).le
      have ha' := hpos a (by simp)
      rw [List.filter_cons_of_neg ha]
      exact iff_of_false (by omega) fun h => ha h.1

def Passes (result : RemoteResult) (database expectedRegion : String) : Prop :=
  ∃ reading, readLeaseholderPlacement result database expectedRegion = .ok reading ∧
    reading.passed = true

/-- The reading passes where the region is written somewhere in every locality. -/
lemma Listing.passes_iff (l : Listing) (stderr database expectedRegion : String) :
    Passes (l.result stderr) database expectedRegion ↔
      ∀ row ∈ l.rows, expectedRegion.toList <:+: row.locality.toList := by
  have hne : (Dict.ofList l.entries).entries ≠ [] := by
    rw [l.entries_ofList, Listing.entries, ne_eq, List.map_eq_nil_iff]
    exact l.nonempty
  have hcounts : localLeases (Dict.ofList l.entries) expectedRegion =
        (Dict.ofList l.entries).values.sum ↔
      ∀ row ∈ l.rows, expectedRegion.toList <:+: row.locality.toList := by
    have hpos : ∀ row ∈ l.rows, (0 : ℤ) < row.count := fun row _ => by
      exact_mod_cast row.positive
    have hsum := sum_filter_eq_iff hpos fun row =>
      decide (expectedRegion.toList <:+: row.locality.toList)
    simp only [decide_eq_true_eq] at hsum
    have hkept : ((Dict.ofList l.entries).filter fun loc _ =>
        decide (expectedRegion.toList <:+: loc.toList)).entries =
        l.entries.filter fun e => decide (expectedRegion.toList <:+: e.1.toList) :=
      congrArg (List.filter _) l.entries_ofList
    rw [← hsum, localLeases, Dict.values, Dict.values, hkept, l.entries_ofList,
      Listing.entries, List.filter_map, List.map_map, List.map_map]
    rfl
  rw [← hcounts]
  unfold Passes readLeaseholderPlacement
  rw [Listing.result, if_neg (by simp), l.foldlM_dataLines]
  simp [bind, Except.bind, hne, pure, Except.pure]

/-! ### The loop -/

section Loop

variable {database expectedRegion : String} {pollIntervalS deadline started : ℚ}

/-- The loop ends with the last reading that it takes. -/
lemma settle_spec {rounds : List Round} {reading : Reading} {waitedS : ℚ}
    (h : settle database expectedRegion pollIntervalS deadline started rounds =
      some (.ok (reading, waitedS))) :
    ∃ taken last rest, rounds = taken ++ last :: rest ∧
      settle database expectedRegion pollIntervalS deadline started taken = none ∧
      settle database expectedRegion pollIntervalS deadline started (taken ++ [last]) =
        some (.ok (reading, waitedS)) ∧
      readLeaseholderPlacement last.result database expectedRegion = .ok reading := by
  induction rounds with
  | nil => cases h
  | cons round rest ih =>
    rw [settle] at h
    cases hread : readLeaseholderPlacement round.result database expectedRegion with
    | error e =>
      rw [hread] at h
      cases h
    | ok found =>
      simp only [hread] at h
      split at h
      · next hends =>
        simp only [Option.some.injEq, Except.ok.injEq, Prod.mk.injEq] at h
        obtain ⟨rfl, rfl⟩ := h
        refine ⟨[], round, rest, rfl, rfl, ?_, hread⟩
        rw [List.nil_append, settle]
        simp only [hread, if_pos hends]
      · next hends =>
        split at h
        · cases h
        · next hsleep =>
          obtain ⟨taken, last, rest', rfl, hwaits, hlast, hfound⟩ := ih h
          refine ⟨round :: taken, last, rest', rfl, ?_, ?_, hfound⟩
          · rw [settle]
            simp only [hread, if_neg hends, if_neg hsleep]
            exact hwaits
          · rw [List.cons_append, settle]
            simp only [hread, if_neg hends, if_neg hsleep]
            exact hlast

/-- Readable answers and a round that ends the waiting give a result. -/
lemma settle_returns {rounds : List Round} (hpoll : 0 ≤ pollIntervalS)
    (hread : ∀ round ∈ rounds, ∃ reading,
      readLeaseholderPlacement round.result database expectedRegion = .ok reading)
    (hends : ∃ round ∈ rounds, Passes round.result database expectedRegion ∨
      deadline ≤ round.testedAt) :
    ∃ r, settle database expectedRegion pollIntervalS deadline started rounds = some (.ok r) := by
  induction rounds with
  | nil => simp at hends
  | cons round rest ih =>
    obtain ⟨reading, hround⟩ := hread round (by simp)
    rw [settle]
    simp only [hround]
    by_cases hdone : reading.passed = true ∨ deadline ≤ round.testedAt
    · exact ⟨_, if_pos hdone⟩
    · have hsleep : ¬ min pollIntervalS (max (deadline - round.sleepsAt) 0) < 0 :=
        not_lt.mpr (le_min hpoll (le_max_right _ _))
      rw [if_neg hdone, if_neg hsleep]
      refine ih (fun r hr => hread r (List.mem_cons_of_mem round hr)) ?_
      obtain ⟨r, hr, h⟩ := hends
      rcases List.mem_cons.mp hr with rfl | hr
      · refine absurd ?_ hdone
        refine h.imp_left fun hpass => ?_
        obtain ⟨found, hfound, hpassed⟩ := hpass
        rw [hround] at hfound
        cases hfound
        exact hpassed
      · exact ⟨r, hr, h⟩

end Loop

/-! ### What the check says -/

/-- A listing passes exactly if every region in it is the expected one. -/
def JudgedByRegion (l : Listing) (stderr database expectedRegion : String) : Prop :=
  Passes (l.result stderr) database expectedRegion ↔ ∀ row ∈ l.rows, row.region = expectedRegion

/-- The check is that of the last reading taken, and there is one when the answers are readable
and the waiting ends. -/
structure LastReadingCounts (database expectedRegion : String) : Prop where
  verdict : ∀ (report : PreflightReport Placement) settleTimeoutS pollIntervalS setAt started
    rounds report',
    checkLeaseholderPlacement report database expectedRegion settleTimeoutS pollIntervalS setAt
      started rounds = some (.ok report') →
    ∃ taken last rest check reading, rounds = taken ++ last :: rest ∧
      checkLeaseholderPlacement report database expectedRegion settleTimeoutS pollIntervalS setAt
        started taken = none ∧
      checkLeaseholderPlacement report database expectedRegion settleTimeoutS pollIntervalS setAt
        started (taken ++ [last]) = some (.ok report') ∧
      readLeaseholderPlacement last.result database expectedRegion = .ok reading ∧
      report' = report.add check ∧ check.passed = reading.passed
  returns : ∀ (report : PreflightReport Placement) settleTimeoutS pollIntervalS setAt started
    rounds, 0 ≤ pollIntervalS →
    (∀ round ∈ rounds, ∃ reading,
      readLeaseholderPlacement round.result database expectedRegion = .ok reading) →
    (∃ round ∈ rounds, Passes round.result database expectedRegion ∨
      setAt + max settleTimeoutS 0 ≤ round.testedAt) →
    ∃ report', checkLeaseholderPlacement report database expectedRegion settleTimeoutS
      pollIntervalS setAt started rounds = some (.ok report')

/-- **The last reading counts**, whatever it is. -/
lemma lastReadingCounts (database expectedRegion : String) :
    LastReadingCounts database expectedRegion := by
  constructor
  · intro report settleTimeoutS pollIntervalS setAt started rounds report' h
    unfold checkLeaseholderPlacement at h ⊢
    obtain ⟨outcome, hsettle, houtcome⟩ := Option.map_eq_some_iff.mp h
    cases outcome with
    | error e => cases houtcome
    | ok r =>
      obtain ⟨reading, waitedS⟩ := r
      obtain ⟨taken, last, rest, hrounds, hwaits, hlast, hread⟩ := settle_spec hsettle
      have hreport := Except.ok.inj houtcome
      exact ⟨taken, last, rest, _, reading, hrounds, by rw [hwaits]; rfl,
        by rw [hlast, Option.map_some, houtcome], hread, hreport.symm, rfl⟩
  · intro report settleTimeoutS pollIntervalS setAt started rounds hpoll hread hends
    obtain ⟨r, hr⟩ : ∃ r, settle database expectedRegion pollIntervalS
        (setAt + max settleTimeoutS 0) started rounds = some (.ok r) :=
      settle_returns hpoll hread hends
    unfold checkLeaseholderPlacement
    rw [hr]
    exact ⟨_, rfl⟩

lemma region_infix_locality (row : Row) : row.region.toList <:+: row.locality.toList := by
  rw [Row.locality, String.toList_append]
  exact (List.suffix_append _ _).isInfix

/-- **The placement is judged by region** exactly on the listings in which some locality lacks the
text of the expected region, or every region is that one. -/
theorem judged_by_region_iff (l : Listing) (stderr database expectedRegion : String) :
    (JudgedByRegion l stderr database expectedRegion ∧ LastReadingCounts database expectedRegion) ↔
      (∃ row ∈ l.rows, ¬ expectedRegion.toList <:+: row.locality.toList) ∨
        ∀ row ∈ l.rows, row.region = expectedRegion := by
  rw [and_iff_left (lastReadingCounts database expectedRegion), JudgedByRegion, l.passes_iff]
  have hall : (∀ row ∈ l.rows, row.region = expectedRegion) →
      ∀ row ∈ l.rows, expectedRegion.toList <:+: row.locality.toList := by
    intro h row hrow
    rw [← h row hrow]
    exact region_infix_locality row
  constructor
  · intro hjudged
    by_cases hwritten : ∀ row ∈ l.rows, expectedRegion.toList <:+: row.locality.toList
    · exact Or.inr (hjudged.mp hwritten)
    · push Not at hwritten
      exact Or.inl hwritten
  · rintro (⟨row, hrow, hlacks⟩ | hregions)
    · exact iff_of_false (fun h => hlacks (h row hrow)) fun h => hlacks (hall h row hrow)
    · exact iff_of_true (hall hregions) hregions

/-- Two leases in the region whose name goes on after the expected one. -/
def eastOne : Row where
  cloud := "gcp"
  region := "us-east1"
  count := 2
  plain := List.all_iff_forall_prop.mp (by decide)
  positive := by decide
  bounded := by decide

/-- Leases in `us-east1` count for `us-east`. -/
theorem east_one_passes_for_east :
    ¬ (JudgedByRegion ⟨[eastOne], by simp, by simp⟩ "" "ycsb" "us-east" ∧
      LastReadingCounts "ycsb" "us-east") := by
  rintro ⟨hjudged, -⟩
  rw [JudgedByRegion, Listing.passes_iff] at hjudged
  have hregion := hjudged.mp (by decide) eastOne (by simp)
  revert hregion
  decide

end CrdbLab.LeaseholderPlacement
