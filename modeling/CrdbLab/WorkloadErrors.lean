import CrdbLab.Workload

/-!
What a line that cannot be read does to the parser.

Whatever a line makes the parser raise, nothing is kept of it. What it raises is the
parser's own error, but for an infinite numeral in the column of the error counter, which
passes the reading of the number and fails the conversion to an integer.
-/

namespace CrdbLab.WorkloadErrors

open CrdbLab.Lib.Extended CrdbLab.Lib.Numeral CrdbLab.Workload

/-- The first column that does not take its token has the error counter, with an infinite
numeral. -/
def FirstOverflow (pairs : List (String × String)) : Prop :=
  ∃ before token after, pairs = before ++ ("errors_cum", token) :: after ∧
    (∀ q ∈ before, Converts q.1 q.2) ∧ ∃ negative, float token = some (.infinite negative)

lemma firstOverflow_nil : ¬ FirstOverflow [] := by
  rintro ⟨before, token, after, h, -⟩
  simp at h

/-- The first column decides, unless it takes its token. -/
lemma firstOverflow_cons {name token : String} {rest : List (String × String)} :
    FirstOverflow ((name, token) :: rest) ↔
      Overflows name token ∨ Converts name token ∧ FirstOverflow rest := by
  refine ⟨?_, ?_⟩
  · rintro ⟨before, token', after, h, hbefore, hinf⟩
    cases before with
    | nil =>
      obtain ⟨⟨rfl, rfl⟩, -⟩ := by simpa using h
      exact Or.inl ⟨rfl, hinf⟩
    | cons q before =>
      obtain ⟨rfl, hrest⟩ := List.cons_eq_cons.mp h
      exact Or.inr ⟨hbefore (name, token) (by simp), before, token', after, hrest,
        fun r hr => hbefore r (List.mem_cons_of_mem _ hr), hinf⟩
  · rintro (⟨rfl, hinf⟩ | ⟨hconv, before, token', after, rfl, hbefore, hinf⟩)
    · exact ⟨[], token, rest, rfl, by simp, hinf⟩
    · refine ⟨(name, token) :: before, token', after, rfl, ?_, hinf⟩
      intro q hq
      rcases List.mem_cons.mp hq with rfl | hq
      · exact hconv
      · exact hbefore q hq

lemma bindColumns_overflow_iff (line : String) (pairs : List (String × String)) :
    ∀ b, bindColumns line b pairs = .error .overflow ↔ FirstOverflow pairs := by
  induction pairs with
  | nil =>
    intro b
    simp [bindColumns, firstOverflow_nil]
  | cons q rest ih =>
    intro b
    obtain ⟨name, token⟩ := q
    rw [firstOverflow_cons]
    rcases bindColumn_cases b name token with ⟨hconv, b', hok, -⟩ | ⟨hconv, hover, herr⟩ |
      ⟨hconv, hover, herr⟩
    · have hover : ¬ Overflows name token := by
        rintro ⟨rfl, negative, hinf⟩
        simp [Converts, hinf] at hconv
      simp [bindColumns, hok, ih, hconv, hover]
    · simp [bindColumns, herr, hover]
    · simp [bindColumns, herr, hconv, hover]

/-- The line is read as data and its error counter is the first number out of reach. -/
def OverflowingErrors (p : WorkloadParser) (line : String) : Prop :=
  IsData line ∧ ∃ header op payload, p.header = some header ∧
    splitLabel (fieldsOf line) header = .ok (op, payload) ∧
    FirstOverflow (header.columns.zip payload)

lemma bindLine_overflow_iff (fields : List String) (header : Header) :
    bindLine fields header = .error .overflow ↔
      ∃ op payload, splitLabel fields header = .ok (op, payload) ∧
        FirstOverflow (header.columns.zip payload) := by
  unfold bindLine
  cases hsplit : splitLabel fields header with
  | error e => simp
  | ok labelled =>
    obtain ⟨op, payload⟩ := labelled
    have hiff := bindColumns_overflow_iff (" ".intercalate fields) (header.columns.zip payload) {}
    cases hb : bindColumns (" ".intercalate fields) {} (header.columns.zip payload) with
    | error e => simpa [hb] using hiff
    | ok b => simpa [hb] using hiff

lemma feed_overflow_iff (p : WorkloadParser) (line : String) :
    (feed p line).1 = .error .overflow ↔ OverflowingErrors p line := by
  unfold OverflowingErrors
  rcases feed_cases p line with ⟨hdata, header, hp, hfeed⟩ | ⟨hdata, hp, hfeed⟩ |
    ⟨hnone, p', hfeed⟩
  · have hbind := bindLine_overflow_iff (fieldsOf line) header
    simp only [hdata, hp, hfeed, true_and, Option.some.injEq, exists_and_left, exists_eq_left']
    rw [← hbind]
    cases bindLine (fieldsOf line) header <;> simp [Except.map]
  · simp [hp, hfeed]
  · rcases hnone with hdata | hp
    · simp [hdata, hfeed]
    · simp [hp, hfeed]

/-- **Nothing is kept of a line that raises.** -/
lemma feed_unchanged {p : WorkloadParser} {line : String} {e : Raised}
    (h : (feed p line).1 = .error e) : (feed p line).2 = p := by
  rcases feed_cases p line with ⟨-, header, -, hfeed⟩ | ⟨-, -, hfeed⟩ | ⟨-, p', hfeed⟩
  · rw [hfeed]
  · rw [hfeed]
  · rw [hfeed] at h
    cases h

/-- A line raises nothing but the parser's own error, and where it raises, the lines after it
are read as if it had not arrived. -/
def FailsLegibly (p : WorkloadParser) (line : String) : Prop :=
  ∀ e, (feed p line).1 = .error e →
    (∃ w, e = .workloadParse w) ∧
    (feed p line).2.header = p.header ∧ (feed p line).2.unparsed = p.unparsed ∧
    ∀ lines, feedAll p (line :: lines) =
      (.error e :: (feedAll p lines).1, (feedAll p lines).2)

/-- **When a line fails legibly**: unless an infinite numeral stands where the error counter
is read. -/
theorem failsLegibly_iff (p : WorkloadParser) (line : String) :
    FailsLegibly p line ↔ ¬ OverflowingErrors p line := by
  rw [← feed_overflow_iff]
  refine ⟨fun h hover => ?_, fun h e he => ?_⟩
  · obtain ⟨w, hw⟩ := (h _ hover).1
    cases hw
  · have hsame := feed_unchanged he
    refine ⟨?_, by rw [hsame], by rw [hsame], fun lines => ?_⟩
    · cases e with
      | workloadParse w => exact ⟨w, rfl⟩
      | overflow => exact absurd he h
    · simp [feedAll, hsame, he]

/-- The header of the generator's periodic lines. -/
def periodicHeader : String :=
  "_elapsed___errors__ops/sec(inst)___ops/sec(cum)__p50(ms)__p95(ms)__p99(ms)_pMax(ms)"

/-- After that header, a line with an infinite error counter raises what no caller expects. -/
theorem infiniteErrors_not_legible :
    ¬ FailsLegibly (feed {} periodicHeader).2 "1.0s inf 508.6 508.6 0.9 3.9 5.8 7.6 read" := by
  intro h
  have hraise : (feed (feed {} periodicHeader).2
      "1.0s inf 508.6 508.6 0.9 3.9 5.8 7.6 read").1 = .error .overflow := by
    decide +kernel
  obtain ⟨w, hw⟩ := (h _ hraise).1
  cases hw

end CrdbLab.WorkloadErrors
