import CrdbLab.Lib.Numeral
import Mathlib.Computability.RegularExpressions
import Mathlib.Data.Finmap

/-!
The parser for the generator's output.

A header line fixes what the columns of the lines after it mean. A data line is bound to the
columns of the last header by position; a field more than there are columns is the label of
the operation type. A line that cannot be read so is refused.
-/

namespace CrdbLab.Workload

open CrdbLab.Lib.Extended CrdbLab.Lib.Numeral

/-! ### The patterns -/

/-- The characters the patterns tell apart. -/
inductive Sym | digit | sign | point | exponent | seconds | other
  deriving DecidableEq, Repr

def sym (c : Char) : Sym :=
  if isDigit c then .digit
  else if c = '+' ∨ c = '-' then .sign
  else if c = '.' then .point
  else if isExponentMark c then .exponent
  else if c = 's' then .seconds
  else .other

section Patterns

open RegularExpression

/-- `\d+`. -/
def digitsRe : RegularExpression Sym := char .digit * star (char .digit)

/-- `(?:r)?`. -/
def optionalRe (r : RegularExpression Sym) : RegularExpression Sym := 1 + r

/-- `^\d+(?:\.\d+)?s$`. -/
def elapsedTokenRe : RegularExpression Sym :=
  digitsRe * (optionalRe (char .point * digitsRe) * char .seconds)

/-- `^[+-]?\d+(?:\.\d+)?(?:[eE][+-]?\d+)?$`. -/
def numericTokenRe : RegularExpression Sym :=
  optionalRe (char .sign) * (digitsRe * (optionalRe (char .point * digitsRe) *
    optionalRe (char .exponent * (optionalRe (char .sign) * digitsRe))))

end Patterns

/-- Whether the whole token has the form of the pattern. -/
def fullMatch (re : RegularExpression Sym) (token : String) : Bool :=
  re.rmatch (token.toList.map sym)

def isUnderscore (c : Char) : Bool := c = '_'

/-- `^_+elapsed`, at the start of the text. -/
def headerRe (text : String) : Bool :=
  text.toList.head?.any isUnderscore &&
    "elapsed".toList.isPrefixOf (text.toList.dropWhile isUnderscore)

/-! ### Headers -/

/-- Column names as printed, with their canonical names. -/
def columnAliases : List (String × String) :=
  [("elapsed", "elapsed_s"), ("errors", "errors_cum"), ("ops/sec(inst)", "tps"),
   ("ops/sec(cum)", "tps_cum"), ("ops(total)", "ops_total"), ("avg(ms)", "avg_ms"),
   ("p50(ms)", "p50_ms"), ("p95(ms)", "p95_ms"), ("p99(ms)", "p99_ms"), ("pMax(ms)", "pmax_ms"),
   ("pmax(ms)", "pmax_ms")]

inductive Kind | periodic | summary
  deriving DecidableEq, Repr

/-- The columns of a cumulative block. -/
def summaryMarkers : List String := ["ops_total", "avg_ms"]

/-- The measured quantities. -/
def metricColumns : List String := columnAliases.map Prod.snd

structure Header where
  columns : List String
  kind : Kind
  opColumn : Option String := none
  deriving DecidableEq, Repr

def canonical (token : String) : String := (columnAliases.lookup token).getD token

def parseHeader (line : String) : Header :=
  let raw := (pieces isUnderscore (strip isSpace line.toList)).map String.ofList
  let columns := raw.map canonical
  let labelled := columns.getLast?.any (· ∉ metricColumns)
  let opColumn := if labelled then columns.getLast? else none
  let columns := if labelled then columns.dropLast else columns
  { columns := columns
    kind := if summaryMarkers.any (· ∈ columns) then .summary else .periodic
    opColumn := opColumn }

/-! ### Lines -/

/-- A dictionary of measured values. -/
abbrev Values := Finmap fun _ : String => Number

/-- One parsed line. -/
structure Sample where
  kind : Kind
  elapsedS : Number
  op : String
  errorsCum : ℤ
  values : Values
  deriving DecidableEq

def Sample.tps (s : Sample) : Number := (s.values.lookup "tps").getD .nan

def Sample.latencyMs (s : Sample) (quantile : String) : Number :=
  (s.values.lookup (quantile ++ "_ms")).getD .nan

/-- Why a line is refused, with what the message names. -/
inductive WorkloadParseError
  | beforeHeader (line : String)
  | numericLabel (op header : String)
  | fieldCount (fields columns : ℕ) (line : String)
  | nonNumeric (column token line : String)
  deriving DecidableEq, Repr

/-- What a call may raise. -/
inductive Raised
  | workloadParse (e : WorkloadParseError)
  | overflow
  deriving DecidableEq, Repr

/-- What a conversion may raise. -/
inductive ConversionError | value | overflow
  deriving DecidableEq, Repr

def floatOf (token : String) : Except ConversionError Number :=
  match float token with
  | some x => .ok x
  | none => .error .value

/-- The integer part of a number. -/
def intOf : Number → Except ConversionError ℤ
  | .finite x => .ok (Number.truncate x)
  | .infinite _ => .error .overflow
  | .nan => .error .value

/-- What has been read of a line. -/
structure Bound where
  elapsedS : Number := .finite 0
  errorsCum : ℤ := 0
  values : Values := ∅
  deriving DecidableEq

/-- The token without its unit of seconds. -/
def withoutSeconds (token : String) : String := String.ofList (rstrip (· = 's') token.toList)

def bindColumn (b : Bound) (name token : String) : Except ConversionError Bound :=
  if name = "elapsed_s" then do
    let x ← floatOf (withoutSeconds token)
    return { b with elapsedS := x }
  else if name = "errors_cum" then do
    let x ← floatOf token
    let n ← intOf x
    return { b with errorsCum := n }
  else do
    let x ← floatOf token
    return { b with values := b.values.insert name x }

/-- The columns with their tokens, from left to right; `line` is for the message. -/
def bindColumns (line : String) : Bound → List (String × String) → Except Raised Bound
  | b, [] => .ok b
  | b, (name, token) :: rest =>
    match bindColumn b name token with
    | .ok b' => bindColumns line b' rest
    | .error .value => .error (.workloadParse (.nonNumeric name token line))
    | .error .overflow => .error .overflow

/-- The label a trailing field gives. -/
def labelOf (token : String) : String :=
  let op := String.ofList (strip isUnderscore token.toList)
  if op = "" then "all" else op

/-- The label and the fields that are measurements. -/
def splitLabel (fields : List String) (header : Header) :
    Except WorkloadParseError (String × List String) :=
  let ncols := header.columns.length
  if fields.length = ncols + 1 then
    let op := labelOf (fields.getLast?.getD "")
    if fullMatch numericTokenRe op then
      .error (.numericLabel op (header.opColumn.getD "(unheaded)"))
    else .ok (op, fields.dropLast)
  else if fields.length = ncols then .ok ("all", fields)
  else .error (.fieldCount fields.length ncols (" ".intercalate fields))

def bindLine (fields : List String) (header : Header) : Except Raised Sample :=
  match splitLabel fields header with
  | .error e => .error (.workloadParse e)
  | .ok (op, payload) =>
    match bindColumns (" ".intercalate fields) {} (header.columns.zip payload) with
    | .error e => .error e
    | .ok b =>
      .ok { kind := header.kind, elapsedS := b.elapsedS, op := op, errorsCum := b.errorsCum
            values := b.values }

structure WorkloadParser where
  strict : Bool := true
  header : Option Header := none
  unparsed : List String := []
  deriving DecidableEq, Repr

/-- The text of a line without the white space around it. -/
def stripped (line : String) : String :=
  String.ofList (strip isSpace (rstrip (· = '\n') line.toList))

/-- The fields of a line. -/
def fieldsOf (line : String) : List String :=
  (pieces isSpace (stripped line).toList).map String.ofList

def feed (p : WorkloadParser) (line : String) : Except Raised (Option Sample) × WorkloadParser :=
  let text := stripped line
  let fields := fieldsOf line
  let kept := { p with unparsed := p.unparsed ++ [text] }
  if text = "" then (.ok none, p)
  else if headerRe text then (.ok none, { p with header := some (parseHeader text) })
  else if !fullMatch elapsedTokenRe (fields.head?.getD "") then (.ok none, kept)
  else
    match p.header with
    | none =>
      if p.strict then (.error (.workloadParse (.beforeHeader text)), p) else (.ok none, kept)
    | some header => ((bindLine fields header).map some, p)

/-- The lines in turn, with what each call gave. -/
def feedAll : WorkloadParser → List String → List (Except Raised (Option Sample)) × WorkloadParser
  | p, [] => ([], p)
  | p, line :: lines =>
    let (r, p') := feed p line
    let (rs, p'') := feedAll p' lines
    (r :: rs, p'')

/-- The line is neither blank nor a header nor chatter. -/
def IsData (line : String) : Prop :=
  stripped line ≠ "" ∧ headerRe (stripped line) = false ∧
  fullMatch elapsedTokenRe ((fieldsOf line).head?.getD "") = true

/-- **What a line can do**: it is read as data under the header, refused for want of one, or
gives nothing. -/
lemma feed_cases (p : WorkloadParser) (line : String) :
    (IsData line ∧ ∃ header, p.header = some header ∧
      feed p line = ((bindLine (fieldsOf line) header).map some, p)) ∨
    (IsData line ∧ p.header = none ∧
      feed p line = (.error (.workloadParse (.beforeHeader (stripped line))), p)) ∨
    ((¬ IsData line ∨ p.header = none) ∧ ∃ p', feed p line = (.ok none, p')) := by
  by_cases hdata : IsData line
  · obtain ⟨hblank, hheader, helapsed⟩ := hdata
    cases hp : p.header with
    | some header =>
      refine Or.inl ⟨⟨hblank, hheader, helapsed⟩, header, rfl, ?_⟩
      simp [feed, hblank, hheader, helapsed, hp]
    | none =>
      by_cases hs : p.strict = true
      · refine Or.inr (Or.inl ⟨⟨hblank, hheader, helapsed⟩, rfl, ?_⟩)
        simp [feed, hblank, hheader, helapsed, hp, hs]
      · refine Or.inr (Or.inr ⟨Or.inr rfl, ?_⟩)
        simp [feed, hblank, hheader, helapsed, hp, hs]
  · refine Or.inr (Or.inr ⟨Or.inl hdata, ?_⟩)
    unfold feed
    by_cases hblank : stripped line = ""
    · simp [hblank]
    · by_cases hheader : headerRe (stripped line) = true
      · simp [hblank, hheader]
      · have helapsed : fullMatch elapsedTokenRe ((fieldsOf line).head?.getD "") = false := by
          by_contra h
          exact hdata ⟨hblank, by simpa using hheader, by simpa using h⟩
        simp [hblank, hheader, helapsed]

/-! ### What one column takes -/

/-- The token is a number the column can hold. -/
def Converts (name token : String) : Prop :=
  if name = "elapsed_s" then (float (withoutSeconds token)).isSome = true
  else if name = "errors_cum" then ∃ x, float token = some (.finite x)
  else (float token).isSome = true

/-- The token is an infinite numeral in the column of the error counter. -/
def Overflows (name token : String) : Prop :=
  name = "errors_cum" ∧ ∃ negative, float token = some (.infinite negative)

/-- What the column holds is the number in the token. -/
def Bound.Reads (b : Bound) (name token : String) : Prop :=
  if name = "elapsed_s" then float (withoutSeconds token) = some b.elapsedS
  else if name = "errors_cum" then
    ∃ x, float token = some (.finite x) ∧ b.errorsCum = Number.truncate x
  else (float token).isSome ∧ b.values.lookup name = float token

/-- The two bounds hold the same in a column. -/
def Bound.Same (b b' : Bound) (name : String) : Prop :=
  if name = "elapsed_s" then b.elapsedS = b'.elapsedS
  else if name = "errors_cum" then b.errorsCum = b'.errorsCum
  else b.values.lookup name = b'.values.lookup name

@[simp] lemma floatOf_eq_ok {token : String} {x : Number} :
    floatOf token = .ok x ↔ float token = some x := by
  unfold floatOf
  cases float token <;> simp

lemma floatOf_of_none {token : String} (h : float token = none) :
    floatOf token = .error .value := by
  simp [floatOf, h]

lemma floatOf_of_some {token : String} {x : Number} (h : float token = some x) :
    floatOf token = .ok x := floatOf_eq_ok.mpr h

/-- **A column takes its number**, changes nothing else, or raises. -/
lemma bindColumn_cases (b : Bound) (name token : String) :
    (Converts name token ∧ ∃ b', bindColumn b name token = .ok b' ∧ b'.Reads name token ∧
      ∀ other ≠ name, b'.Same b other) ∨
    (¬ Converts name token ∧ Overflows name token ∧
      bindColumn b name token = .error .overflow) ∨
    (¬ Converts name token ∧ ¬ Overflows name token ∧
      bindColumn b name token = .error .value) := by
  unfold bindColumn Converts Overflows
  by_cases helapsed : name = "elapsed_s"
  · subst helapsed
    cases hx : float (withoutSeconds token) with
    | none => simp [floatOf_of_none hx, bind, Except.bind]
    | some x =>
      refine Or.inl ⟨by simp, { b with elapsedS := x }, ?_, ?_, ?_⟩
      · simp [floatOf_of_some hx, bind, Except.bind, pure, Except.pure]
      · simp [Bound.Reads, hx]
      · intro other hne
        simp [Bound.Same, hne]
  · by_cases herrors : name = "errors_cum"
    · subst herrors
      cases hx : float token with
      | none => simp [floatOf_of_none hx, bind, Except.bind]
      | some x =>
        cases x with
        | finite y =>
          refine Or.inl ⟨by simp, { b with errorsCum := Number.truncate y }, ?_, ?_, ?_⟩
          · simp [floatOf_of_some hx, intOf, bind, Except.bind, pure, Except.pure]
          · simp [Bound.Reads, hx]
          · intro other hne
            simp [Bound.Same, hne]
        | infinite n => simp [floatOf_of_some hx, intOf, bind, Except.bind]
        | nan => simp [floatOf_of_some hx, intOf, bind, Except.bind]
    · simp only [helapsed, herrors, if_false, false_and, not_false_eq_true, and_false, true_and,
        false_or]
      cases hx : float token with
      | none => simp [floatOf_of_none hx, bind, Except.bind]
      | some x =>
        refine Or.inl ⟨by simp, { b with values := b.values.insert name x }, ?_, ?_, ?_⟩
        · simp [floatOf_of_some hx, bind, Except.bind, pure, Except.pure]
        · simp [Bound.Reads, hx, helapsed, herrors]
        · intro other hne
          simp [Bound.Same, Finmap.lookup_insert_of_ne _ hne]

end CrdbLab.Workload
