import CrdbLab.NumericToken
import CrdbLab.WorkloadErrors

/-!
What the entries of a sample are.

Each entry is the number in the field at its column's position in the header, whatever the
order of the columns. A trailing field that reads as a number is not taken for a label, as
long as it is written plainly.
-/

namespace CrdbLab.HeaderBinding

open CrdbLab.Lib.Extended CrdbLab.Lib.Numeral CrdbLab.Workload CrdbLab.NumericToken

/-! ### Binding all columns -/

/-- No measured value goes by the name of the two columns with entries of their own. -/
def Clean (b : Bound) : Prop :=
  b.values.lookup "elapsed_s" = none ∧ b.values.lookup "errors_cum" = none

lemma bindColumn_clean {b b' : Bound} {name token : String} (hb : Clean b)
    (h : bindColumn b name token = .ok b') : Clean b' := by
  unfold bindColumn at h
  by_cases helapsed : name = "elapsed_s"
  · cases hx : floatOf (withoutSeconds token) with
    | error e => simp [helapsed, hx, bind, Except.bind] at h
    | ok x =>
      simp only [helapsed, if_true, hx, bind, Except.bind, pure, Except.pure,
        Except.ok.injEq] at h
      rw [← h]
      exact hb
  · cases hx : floatOf token with
    | error e => simp [helapsed, hx, bind, Except.bind] at h
    | ok x =>
      by_cases herrors : name = "errors_cum"
      · cases hn : intOf x with
        | error e => simp [herrors, hx, hn, bind, Except.bind] at h
        | ok n =>
          simp only [if_neg helapsed, if_pos herrors, hx, hn, bind, Except.bind, pure,
            Except.pure, Except.ok.injEq] at h
          rw [← h]
          exact hb
      · simp only [helapsed, herrors, if_false, hx, bind, Except.bind, pure, Except.pure,
          Except.ok.injEq] at h
        rw [← h]
        refine ⟨?_, ?_⟩
        · rw [Finmap.lookup_insert_of_ne _ (Ne.symm helapsed)]
          exact hb.1
        · rw [Finmap.lookup_insert_of_ne _ (Ne.symm herrors)]
          exact hb.2

lemma same_trans {b b' b'' : Bound} {name : String} (h : b.Same b' name)
    (h' : b'.Same b'' name) : b.Same b'' name := by
  unfold Bound.Same at h h' ⊢
  split_ifs at h h' ⊢
  · exact h.trans h'
  · exact h.trans h'
  · exact h.trans h'

lemma reads_of_same {b b' : Bound} {name token : String} (h : b'.Same b name)
    (hb : b.Reads name token) : b'.Reads name token := by
  unfold Bound.Same at h
  unfold Bound.Reads at hb ⊢
  split_ifs at h hb ⊢
  · rw [h]
    exact hb
  · rw [h]
    exact hb
  · rw [h]
    exact hb

/-- **Binding by name**: with distinct columns each one reads its own token, and what has no
column stays as it was. -/
lemma bindColumns_spec (line : String) (pairs : List (String × String)) :
    ∀ b b', (pairs.map Prod.fst).Nodup → bindColumns line b pairs = .ok b' →
      (∀ q ∈ pairs, b'.Reads q.1 q.2) ∧ (∀ name ∉ pairs.map Prod.fst, b'.Same b name) ∧
      (Clean b → Clean b') := by
  induction pairs with
  | nil =>
    intro b b' _ h
    obtain rfl : b = b' := by simpa [bindColumns] using h
    refine ⟨by simp, fun name _ => ?_, id⟩
    unfold Bound.Same
    split_ifs <;> rfl
  | cons q rest ih =>
    intro b b' hnodup h
    obtain ⟨name, token⟩ := q
    obtain ⟨hfresh, hrestNodup⟩ := List.nodup_cons.mp hnodup
    rcases bindColumn_cases b name token with ⟨-, b₁, hok, hreads, hframe⟩ | ⟨-, -, herr⟩ |
      ⟨-, -, herr⟩
    · simp only [bindColumns, hok] at h
      obtain ⟨hrest, hsame, hclean⟩ := ih b₁ b' hrestNodup h
      refine ⟨?_, ?_, fun hb => hclean (bindColumn_clean hb hok)⟩
      · intro q hq
        rcases List.mem_cons.mp hq with rfl | hq
        · exact reads_of_same (hsame name hfresh) hreads
        · exact hrest q hq
      · intro other hother
        rw [List.map_cons, List.mem_cons, not_or] at hother
        exact same_trans (hsame other hother.2) (hframe other hother.1)
    · simp [bindColumns, herr] at h
    · simp [bindColumns, herr] at h

lemma bindColumns_ok_iff (line : String) (pairs : List (String × String)) :
    ∀ b, (∃ b', bindColumns line b pairs = .ok b') ↔ ∀ q ∈ pairs, Converts q.1 q.2 := by
  induction pairs with
  | nil => simp [bindColumns]
  | cons q rest ih =>
    intro b
    obtain ⟨name, token⟩ := q
    rw [List.forall_mem_cons]
    rcases bindColumn_cases b name token with ⟨hconv, b₁, hok, -⟩ | ⟨hconv, -, herr⟩ |
      ⟨hconv, -, herr⟩
    · simp [bindColumns, hok, ih, hconv]
    · simp [bindColumns, herr, hconv]
    · simp [bindColumns, herr, hconv]

/-- What a token gives a column is determined by the token. -/
lemma same_of_reads {b b' : Bound} {name token : String} (h : b.Reads name token)
    (h' : b'.Reads name token) : b.Same b' name := by
  unfold Bound.Reads at h h'
  unfold Bound.Same
  split_ifs at h h' ⊢
  · exact Option.some.inj (h.symm.trans h')
  · obtain ⟨x, hx, hb⟩ := h
    obtain ⟨y, hy, hb'⟩ := h'
    obtain rfl : x = y := by simpa using hx.symm.trans hy
    rw [hb, hb']
  · exact h.2.trans h'.2.symm

lemma bound_ext {b b' : Bound} (hb : Clean b) (hb' : Clean b') (h : ∀ name, b.Same b' name) :
    b = b' := by
  have helapsed := h "elapsed_s"
  have herrors := h "errors_cum"
  have hvalues : b.values = b'.values := by
    apply Finmap.ext_lookup
    intro name
    by_cases h1 : name = "elapsed_s"
    · rw [h1, hb.1, hb'.1]
    · by_cases h2 : name = "errors_cum"
      · rw [h2, hb.2, hb'.2]
      · simpa [Bound.Same, h1, h2] using h name
  cases b
  cases b'
  simp_all [Bound.Same]

/-- **The order of the columns does not matter.** -/
lemma bindColumns_perm {line line' : String} {pairs pairs' : List (String × String)}
    (hperm : pairs.Perm pairs') (hnodup : (pairs.map Prod.fst).Nodup) {b : Bound}
    (h : bindColumns line {} pairs = .ok b) : bindColumns line' {} pairs' = .ok b := by
  have hconv := (bindColumns_ok_iff line pairs {}).mp ⟨b, h⟩
  obtain ⟨b', h'⟩ := (bindColumns_ok_iff line' pairs' {}).mpr fun q hq =>
    hconv q (hperm.mem_iff.mpr hq)
  have hnodup' : (pairs'.map Prod.fst).Nodup := (hperm.map Prod.fst).nodup_iff.mp hnodup
  have hempty : Clean {} := ⟨by simp, by simp⟩
  obtain ⟨hreads, hsame, hclean⟩ := bindColumns_spec line pairs {} b hnodup h
  obtain ⟨hreads', hsame', hclean'⟩ := bindColumns_spec line' pairs' {} b' hnodup' h'
  have heq : b' = b := by
    refine bound_ext (hclean' hempty) (hclean hempty) fun name => ?_
    by_cases hname : name ∈ pairs.map Prod.fst
    · obtain ⟨q, hq, rfl⟩ := List.mem_map.mp hname
      exact same_of_reads (hreads' q (hperm.mem_iff.mp hq)) (hreads q hq)
    · have hname' : name ∉ pairs'.map Prod.fst := fun hmem =>
        hname ((hperm.map Prod.fst).mem_iff.mpr hmem)
      have hback : Bound.Same {} b name := by
        have := hsame name hname
        unfold Bound.Same at this ⊢
        split_ifs at this ⊢ <;> exact this.symm
      exact same_trans (hsame' name hname') hback
  rw [h', heq]

/-! ### Accepted lines -/

/-- A line that is split has as many measurements as the header has columns, and at most a
label after them that the pattern does not match. -/
lemma splitLabel_spec {fields : List String} {header : Header} {op : String}
    {payload : List String} (h : splitLabel fields header = .ok (op, payload)) :
    payload.length = header.columns.length ∧
      (fields = payload ∧ op = "all" ∨
        ∃ token, fields = payload ++ [token] ∧ op = labelOf token ∧
          fullMatch numericTokenRe op = false) := by
  simp only [splitLabel] at h
  split_ifs at h with hlen hmatch hfit
  · obtain ⟨rfl, rfl⟩ := by simpa using h
    have hne : fields ≠ [] := by
      rintro rfl
      simp at hlen
    refine ⟨by simp [hlen], Or.inr ⟨fields.getLast hne, ?_, ?_, by simpa using hmatch⟩⟩
    · exact (List.dropLast_append_getLast hne).symm
    · rw [List.getLast?_eq_some_getLast hne]
      rfl
  · obtain ⟨rfl, rfl⟩ := by simpa using h
    exact ⟨hfit, Or.inl ⟨rfl, rfl⟩⟩

lemma splitLabel_unlabelled {header : Header} {payload : List String}
    (hlen : payload.length = header.columns.length) :
    splitLabel payload header = .ok ("all", payload) := by
  simp [splitLabel, hlen]

lemma splitLabel_labelled {header : Header} {payload : List String} {token : String}
    (hlen : payload.length = header.columns.length)
    (hmatch : fullMatch numericTokenRe (labelOf token) = false) :
    splitLabel (payload ++ [token]) header = .ok (labelOf token, payload) := by
  simp [splitLabel, hlen, hmatch]

/-- The label is split off whatever the columns before it are. -/
lemma splitLabel_rearranged {header header' : Header} {payload payload' label rest : List String}
    {op : String} (hlen : payload.length = header.columns.length)
    (hlen' : payload'.length = header'.columns.length)
    (h : splitLabel (payload ++ label) header = .ok (op, rest)) :
    rest = payload ∧ splitLabel (payload' ++ label) header' = .ok (op, payload') := by
  obtain ⟨hrest, hsame | ⟨token, hsame, rfl, hmatch⟩⟩ := splitLabel_spec h
  · obtain ⟨hfields, rfl⟩ := hsame
    obtain ⟨rfl, rfl⟩ := List.append_inj (hfields.trans (List.append_nil rest).symm)
      (hlen.trans hrest.symm)
    rw [List.append_nil]
    exact ⟨rfl, splitLabel_unlabelled hlen'⟩
  · obtain ⟨rfl, rfl⟩ := List.append_inj hsame (hlen.trans hrest.symm)
    exact ⟨rfl, splitLabel_labelled hlen' hmatch⟩

/-- What is known of a line that gave a sample. -/
lemma feed_some {p : WorkloadParser} {line : String} {s : Sample}
    (h : (feed p line).1 = .ok (some s)) :
    IsData line ∧ ∃ header op payload b, p.header = some header ∧
      splitLabel (fieldsOf line) header = .ok (op, payload) ∧
      bindColumns (" ".intercalate (fieldsOf line)) {} (header.columns.zip payload) = .ok b ∧
      s = ⟨header.kind, b.elapsedS, op, b.errorsCum, b.values⟩ := by
  rcases feed_cases p line with ⟨hdata, header, hp, hfeed⟩ | ⟨-, -, hfeed⟩ | ⟨-, p', hfeed⟩
  · refine ⟨hdata, header, ?_⟩
    rw [hfeed] at h
    unfold bindLine at h
    cases hsplit : splitLabel (fieldsOf line) header with
    | error e => simp [hsplit, Except.map] at h
    | ok labelled =>
      obtain ⟨op, payload⟩ := labelled
      cases hb : bindColumns (" ".intercalate (fieldsOf line)) {} (header.columns.zip payload) with
      | error e => simp [hsplit, hb, Except.map] at h
      | ok b =>
        simp only [hsplit, hb, Except.map, Except.ok.injEq, Option.some.injEq] at h
        exact ⟨op, payload, b, hp, rfl, hb, h.symm⟩
  · rw [hfeed] at h
    cases h
  · rw [hfeed] at h
    cases h

/-- The other way about. -/
lemma feed_of_bound {p : WorkloadParser} {line : String} {header : Header} {op : String}
    {payload : List String} {b : Bound} (hdata : IsData line) (hp : p.header = some header)
    (hsplit : splitLabel (fieldsOf line) header = .ok (op, payload))
    (hb : bindColumns (" ".intercalate (fieldsOf line)) {} (header.columns.zip payload) = .ok b) :
    (feed p line).1 = .ok (some ⟨header.kind, b.elapsedS, op, b.errorsCum, b.values⟩) := by
  rcases feed_cases p line with ⟨-, header', hp', hfeed⟩ | ⟨-, hp', -⟩ | ⟨hnone, -⟩
  · obtain rfl : header = header' := Option.some.inj (hp.symm.trans hp')
    simp [hfeed, bindLine, hsplit, hb, Except.map]
  · rw [hp] at hp'
    cases hp'
  · rcases hnone with hnot | hp'
    · exact absurd hdata hnot
    · rw [hp] at hp'
      cases hp'

/-! ### What the entries are -/

/-- The entries of a sample, as what was read of its line. -/
def entries (s : Sample) : Bound := ⟨s.elapsedS, s.errorsCum, s.values⟩

/-- Each entry is the number in the field at the position of its column. -/
structure BoundByPosition (header : Header) (fields : List String) (s : Sample) : Prop where
  column : ∀ (i : ℕ) (name : String), header.columns[i]? = some name →
    ∃ token : String, fields[i]? = some token ∧ (entries s).Reads name token
  value : ∀ name x, s.values.lookup name = some x →
    ∃ (i : ℕ) (token : String), header.columns[i]? = some name ∧ fields[i]? = some token ∧
      float token = some x

/-- The same columns with the same fields, in another order, and the same label. -/
def Rearranged (header header' : Header) (fields fields' : List String) : Prop :=
  ∃ payload payload' label, fields = payload ++ label ∧ fields' = payload' ++ label ∧
    payload.length = header.columns.length ∧ payload'.length = header'.columns.length ∧
    (header.columns.zip payload).Perm (header'.columns.zip payload')

/-- Rearranging the columns of the header with the fields of the line gives the same sample. -/
def OrderFree (headerLine line : String) (s : Sample) : Prop :=
  ∀ headerLine' line' (p' : WorkloadParser), p'.header = some (parseHeader headerLine') →
    IsData line' →
    Rearranged (parseHeader headerLine) (parseHeader headerLine') (fieldsOf line)
      (fieldsOf line') →
    (feed p' line').1 = .ok (some s)

/-- The trailing field is a numeral the parser reads, but not one written plainly. -/
def LooseLabel (header : Header) (fields : List String) : Prop :=
  ∃ payload token, fields = payload ++ [token] ∧ payload.length = header.columns.length ∧
    (float (labelOf token)).isSome ∧ ¬ Plain (labelOf token).toList

lemma parseHeader_kind (line : String) :
    (parseHeader line).kind =
      if summaryMarkers.any (· ∈ (parseHeader line).columns) then .summary else .periodic := by
  obtain ⟨columns, opColumn, h⟩ : ∃ columns opColumn, parseHeader line =
      ⟨columns, if summaryMarkers.any (· ∈ columns) then .summary else .periodic, opColumn⟩ :=
    ⟨_, _, rfl⟩
  rw [h]

/-- The kind of a block does not depend on the order of its columns. -/
lemma kind_of_perm {line line' : String}
    (h : (parseHeader line).columns.Perm (parseHeader line').columns) :
    (parseHeader line).kind = (parseHeader line').kind := by
  rw [parseHeader_kind, parseHeader_kind]
  simp only [h.mem_iff]

lemma all_not_number : float "all" = none := by decide +kernel

section Accepted

variable {p : WorkloadParser} {headerLine line : String} {s : Sample}

/-- A token that is bound to a column is the field at the column's position. -/
lemma getElem?_fieldsOf {header : Header} {op : String} {payload : List String}
    (hsplit : splitLabel (fieldsOf line) header = .ok (op, payload)) {i : ℕ} {token : String}
    (hi : payload[i]? = some token) : (fieldsOf line)[i]? = some token := by
  obtain ⟨-, ⟨h, -⟩ | ⟨label, h, -⟩⟩ := splitLabel_spec hsplit
  · rw [h]
    exact hi
  · rw [h, List.getElem?_append_left (List.getElem?_eq_some_iff.mp hi).1]
    exact hi

/-- Every column has read the token at its position. -/
lemma exists_read_of_column {columns payload : List String} {b : Bound}
    (hlen : payload.length = columns.length)
    (hreads : ∀ q ∈ columns.zip payload, b.Reads q.1 q.2) {i : ℕ} {name : String}
    (hi : columns[i]? = some name) :
    ∃ token : String, payload[i]? = some token ∧ b.Reads name token := by
  have hlt : i < payload.length := by
    rw [hlen]
    exact (List.getElem?_eq_some_iff.mp hi).1
  have htoken : payload[i]? = some payload[i] := List.getElem?_eq_getElem hlt
  have hmem : (name, payload[i]) ∈ columns.zip payload :=
    List.mem_of_getElem? (List.getElem?_zip_eq_some.mpr ⟨hi, htoken⟩)
  exact ⟨payload[i], htoken, hreads _ hmem⟩

/-- An entry that was not there before has a column, which is not one of the two that are kept
elsewhere. -/
lemma column_of_lookup {columns : List String} {b : Bound} (hclean : Clean b)
    (hsame : ∀ name ∉ columns, b.Same {} name) {name : String} {x : Number}
    (hx : b.values.lookup name = some x) :
    name ∈ columns ∧ name ≠ "elapsed_s" ∧ name ≠ "errors_cum" := by
  have helapsed : name ≠ "elapsed_s" := by
    rintro rfl
    simp [hclean.1] at hx
  have herrors : name ≠ "errors_cum" := by
    rintro rfl
    simp [hclean.2] at hx
  refine ⟨?_, helapsed, herrors⟩
  by_contra hnot
  have hframe := hsame name hnot
  simp only [Bound.Same, helapsed, herrors, if_false] at hframe
  rw [hframe] at hx
  simp at hx

/-- Position by position, for every line accepted under a header with distinct columns. -/
lemma boundByPosition {header : Header} (hp : p.header = some header)
    (hnodup : header.columns.Nodup) (hs : (feed p line).1 = .ok (some s)) :
    BoundByPosition header (fieldsOf line) s := by
  obtain ⟨-, header', op, payload, b, hp', hsplit, hb, rfl⟩ := feed_some hs
  obtain rfl : header = header' := Option.some.inj (hp.symm.trans hp')
  have hlen := (splitLabel_spec hsplit).1
  have hnames : (header.columns.zip payload).map Prod.fst = header.columns := by
    rw [List.map_fst_zip hlen.ge]
  obtain ⟨hreads, hsame, hclean⟩ :=
    bindColumns_spec _ _ {} b (by rw [hnames]; exact hnodup) hb
  rw [hnames] at hsame
  refine ⟨fun i name hi => ?_, fun name x hx => ?_⟩
  · obtain ⟨token, htoken, hread⟩ := exists_read_of_column hlen hreads hi
    exact ⟨token, getElem?_fieldsOf hsplit htoken, hread⟩
  · replace hx : b.values.lookup name = some x := hx
    obtain ⟨hmem, helapsed, herrors⟩ := column_of_lookup (hclean ⟨by simp, by simp⟩) hsame hx
    obtain ⟨i, hi, hname⟩ := List.mem_iff_getElem.mp hmem
    have hi' : header.columns[i]? = some name := List.getElem?_eq_some_iff.mpr ⟨hi, hname⟩
    obtain ⟨token, htoken, hread⟩ := exists_read_of_column hlen hreads hi'
    simp only [Bound.Reads, helapsed, herrors, if_false] at hread
    exact ⟨i, token, hi', getElem?_fieldsOf hsplit htoken, hread.2.symm.trans hx⟩

/-- The same sample from any rearrangement. -/
lemma orderFree (hp : p.header = some (parseHeader headerLine))
    (hnodup : (parseHeader headerLine).columns.Nodup)
    (hs : (feed p line).1 = .ok (some s)) : OrderFree headerLine line s := by
  obtain ⟨-, header, op, rest, b, hp', hsplit, hb, rfl⟩ := feed_some hs
  obtain rfl := Option.some.inj (hp.symm.trans hp')
  intro headerLine' line' p' hheader' hdata' hrearranged
  obtain ⟨payload, payload', label, hfields, hfields', hlen, hlen', hperm⟩ := hrearranged
  rw [hfields] at hsplit
  obtain ⟨rfl, hsplit'⟩ := splitLabel_rearranged hlen hlen' hsplit
  rw [← hfields'] at hsplit'
  have hnames : ((parseHeader headerLine).columns.zip rest).map Prod.fst =
      (parseHeader headerLine).columns := List.map_fst_zip hlen.ge
  have hnames' : ((parseHeader headerLine').columns.zip payload').map Prod.fst =
      (parseHeader headerLine').columns := List.map_fst_zip hlen'.ge
  have hcolumns : (parseHeader headerLine).columns.Perm (parseHeader headerLine').columns := by
    rw [← hnames, ← hnames']
    exact hperm.map Prod.fst
  rw [kind_of_perm hcolumns]
  exact feed_of_bound hdata' hheader' hsplit'
    (bindColumns_perm hperm (by rw [hnames]; exact hnodup) hb)

/-- The label of an accepted line is a number exactly if it is a loosely written one. -/
lemma label_not_number_iff {header : Header} (hp : p.header = some header)
    (hs : (feed p line).1 = .ok (some s)) :
    float s.op = none ↔ ¬ LooseLabel header (fieldsOf line) := by
  obtain ⟨-, header', op, payload, b, hp', hsplit, -, rfl⟩ := feed_some hs
  obtain rfl : header = header' := Option.some.inj (hp.symm.trans hp')
  dsimp only
  obtain ⟨hlen, ⟨hfields, rfl⟩ | ⟨token, hfields, rfl, hmatch⟩⟩ := splitLabel_spec hsplit
  · refine iff_of_true all_not_number ?_
    rintro ⟨payload', token, hfields', hlen', -⟩
    have := congrArg List.length (hfields.symm.trans hfields')
    simp only [List.length_append, List.length_singleton] at this
    omega
  · refine ⟨?_, fun hloose => ?_⟩
    · rintro hnone ⟨payload', token', hfields', hlen', hnumber, -⟩
      obtain ⟨-, htoken⟩ := List.append_inj (hfields.symm.trans hfields')
        (hlen.trans hlen'.symm)
      obtain rfl : token = token' := by simpa using htoken
      simp [hnone] at hnumber
    · by_contra hnumber
      have hsome : (float (labelOf token)).isSome := Option.isSome_iff_ne_none.mpr hnumber
      have hplain : Plain (labelOf token).toList := by
        by_contra hnot
        exact hloose ⟨payload, token, hfields, hlen, hsome, hnot⟩
      rw [fullMatch_of_plain hsome hplain] at hmatch
      cases hmatch

/-- **Binding by the header**: the entries of a sample are always the numbers at their
columns' positions, in whatever order the columns stand, and its label is not a number unless
the trailing field is a loosely written one. -/
theorem headerBinding_iff (hp : p.header = some (parseHeader headerLine))
    (hnodup : (parseHeader headerLine).columns.Nodup)
    (hs : (feed p line).1 = .ok (some s)) :
    (BoundByPosition (parseHeader headerLine) (fieldsOf line) s ∧ OrderFree headerLine line s ∧
      float s.op = none) ↔ ¬ LooseLabel (parseHeader headerLine) (fieldsOf line) := by
  rw [← label_not_number_iff hp hs]
  refine ⟨fun h => h.2.2, fun h => ⟨?_, ?_, h⟩⟩
  · exact boundByPosition hp hnodup hs
  · exact orderFree hp hnodup hs

end Accepted

/-! ### Two lines -/

open CrdbLab.WorkloadErrors (periodicHeader)

/-- The sample of a line with the values of the test fixture and a label. -/
def fixtureSample (op : String) : Sample where
  kind := .periodic
  elapsedS := .finite 1
  op := op
  errorsCum := 0
  values := (((((∅ : Values).insert "tps" (.finite (2543 / 5))).insert "tps_cum"
    (.finite (2543 / 5))).insert "p50_ms" (.finite (9 / 10))).insert "p95_ms"
    (.finite (39 / 10))).insert "p99_ms" (.finite (29 / 5)) |>.insert "pmax_ms" (.finite (38 / 5))

def fixtureLine (op : String) : String := "1.0s 0 508.6 508.6 0.9 3.9 5.8 7.6 " ++ op

/-- A line that ends in a label is bound by its header. -/
theorem readLine_bound :
    BoundByPosition (parseHeader periodicHeader) (fieldsOf (fixtureLine "read"))
        (fixtureSample "read") ∧
      OrderFree periodicHeader (fixtureLine "read") (fixtureSample "read") ∧
      float (fixtureSample "read").op = none := by
  refine (headerBinding_iff (p := (feed {} periodicHeader).2) (by decide +kernel)
    (by decide +kernel) (by decide +kernel)).mpr ?_
  rintro ⟨payload, token, hfields, -, hnumber, -⟩
  have hlast : (fieldsOf (fixtureLine "read")).getLast? = some "read" := by decide +kernel
  rw [hfields] at hlast
  obtain rfl : token = "read" := by simpa using hlast
  exact absurd hnumber (by decide +kernel)

/-- The header with one more quantile, which the alias table does not have. -/
def extendedHeader : String := periodicHeader ++ "__p999(ms)"

/-- Where the generator prints that quantile as not a number, it is taken for an operation. -/
theorem missingQuantile_label :
    (feed (feed {} extendedHeader).2 (fixtureLine "NaN")).1 = .ok (some (fixtureSample "NaN")) ∧
    (parseHeader extendedHeader).columns.Nodup ∧
    ¬ (BoundByPosition (parseHeader extendedHeader) (fieldsOf (fixtureLine "NaN"))
        (fixtureSample "NaN") ∧
      OrderFree extendedHeader (fixtureLine "NaN") (fixtureSample "NaN") ∧
      float (fixtureSample "NaN").op = none) := by
  refine ⟨by decide +kernel, by decide +kernel, fun h => ?_⟩
  exact absurd h.2.2 (by decide +kernel)

end CrdbLab.HeaderBinding
