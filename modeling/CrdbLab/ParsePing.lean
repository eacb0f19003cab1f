import CrdbLab.Lib.OrderStat
import CrdbLab.Lib.Recent
import CrdbLab.ManifestNotes
import CrdbLab.NetworkProbe
import CrdbLab.Optional
import CrdbLab.P1Network

/-!
What one run of ping says of a link.

The packets are found by their times, which are printed to fewer decimals the longer they are;
the quantiles are rounded to the fewest. The other statistics come from ping's last line, which
has three decimals always, or from the packets where that line is missing. A text of digits and
points may not be a number, and reading it then ends with an exception.
-/

namespace CrdbLab.ParsePing

open CrdbLab.Lib.Fallible CrdbLab.Lib.Numeral CrdbLab.Lib.OrderStat CrdbLab.Lib.Recent
open CrdbLab.Lib.Rounding CrdbLab.ManifestNotes CrdbLab.NetworkProbe CrdbLab.Optional

/-! ### Patterns -/

/-- `[0-9.]` -/
def isFigure (c : Char) : Bool := isAsciiDigit c || c == '.'

/-- What follows the word at the front. -/
def expect (word : String) (s : List Char) : Option (List Char) :=
  if word.toList.isPrefixOf s then some (s.drop word.length) else none

/-- `([0-9.]+)` -/
def figures (s : List Char) : Option (List Char × List Char) :=
  if s.takeWhile isFigure = [] then none else some (s.takeWhile isFigure, s.dropWhile isFigure)

/-- `\s*` -/
def skipBlanks (s : List Char) : List Char := s.dropWhile isSpace

/-- `\s+` -/
def blanks (s : List Char) : Option (List Char) :=
  if s.head?.any isSpace then some (skipBlanks s) else none

def timeRe (s : List Char) : Option (List Char × List Char) := do
  let s ← expect "time=" s
  let (token, s) ← figures s
  let s ← expect "ms" (skipBlanks s)
  return (token, s)

def lossRe (s : List Char) : Option (List Char) := do
  let (token, s) ← figures s
  let s ← expect "%" s
  let s ← blanks s
  let _ ← expect "packet loss" s
  return token

/-- ping's own summary, which carries three decimals irrespective of magnitude. -/
def summaryRe (s : List Char) : Option (List Char × List Char × List Char × List Char) := do
  let s ← expect "rtt" s
  let s ← blanks s
  let s ← expect "min/avg/max/mdev" s
  let s ← expect "=" (skipBlanks s)
  let (least, s) ← figures (skipBlanks s)
  let s ← expect "/" s
  let (mean, s) ← figures s
  let s ← expect "/" s
  let (greatest, s) ← figures s
  let s ← expect "/" s
  let (mdev, s) ← figures s
  let _ ← expect "ms" (skipBlanks s)
  return (least, mean, greatest, mdev)

/-- The first match. -/
def search {α : Type} (re : List Char → Option α) : List Char → Option α
  | [] => re []
  | c :: s => (re (c :: s)).orElse fun _ => search re s

/-- The matches one after the other, each sought behind the one before. -/
def findAll {α : Type} (re : List Char → Option (α × List Char)) : ℕ → List Char → List α
  | 0, _ => []
  | n + 1, s =>
    match re s with
    | some (x, rest) => x :: findAll re n rest
    | none =>
      match s with
      | [] => []
      | _ :: s => findAll re n s

/-- The times of the packets, as they are printed. -/
def timeTokens (output : List Char) : List (List Char) := findAll timeRe (output.length + 1) output

/-! ### Statistics -/

/-- `float` of a text of digits and points. -/
def floatOf (token : List Char) : Except PyError ℚ :=
  match decimal token with
  | some x => .ok x
  | none => .error .valueError

/-- `len(token.partition(".")[2])` -/
def decimalsOf (token : List Char) : ℕ := (token.dropWhile (· ≠ '.')).tail.length

/-- The population variance. -/
def variance (values : List ℚ) : ℚ := mean (values.map fun x => (x - mean values) ^ 2)

/-- The square root of `x`, which is not negative, to `n` decimals. -/
def roundSqrt (n : ℕ) (x : ℚ) : ℚ :=
  let y := x * 100 ^ n
  let s := Nat.sqrt ⌊y⌋.toNat
  let half := ((s : ℚ) + 1 / 2) ^ 2
  (if y < half then s else if half < y then s + 1 else if Even s then s else s + 1 : ℕ) / 10 ^ n

/-- The least, mean and greatest time, and their deviation to three decimals. -/
structure Spread where
  least : ℚ
  mean : ℚ
  greatest : ℚ
  mdev : ℚ
  deriving DecidableEq, Repr

/-- The statistics of ping's last line, or of the packets where there is none. -/
def spread (output : List Char) (times : List ℚ) : Except PyError Spread :=
  match search summaryRe output with
  | some (least, mean, greatest, mdev) => do
    let least ← floatOf least
    let mean ← floatOf mean
    let greatest ← floatOf greatest
    let mdev ← floatOf mdev
    return ⟨least, mean, greatest, roundTo 3 mdev⟩
  | none =>
    .ok
      { least := orZero (sorted times).head?
        mean := mean times
        greatest := orZero (sorted times).getLast?
        mdev := if 1 < times.length then roundSqrt 3 (variance times) else 0 }

def quantile (ordered : List ℚ) (q : ℚ) : Except PyError ℚ :=
  (P1Network.quantile ordered q).mapError fun _ => .valueError

def loss (output : List Char) : Except PyError ℚ :=
  match search lossRe output with
  | some token => floatOf token
  | none => .ok 100

/-- A destination with no replies is recorded with its loss, not left out. -/
def parsePing (output : List Char) : Except PyError LinkStats := do
  let tokens := timeTokens output
  let times ← tokens.mapM floatOf
  let lossPct ← loss output
  if times = [] then return { samples := 0, lossPct := lossPct }
  else
    let decimals := ((tokens.map decimalsOf).min?).getD 0
    let s ← spread output times
    let p95 ← quantile (sorted times) (95 / 100)
    let p99 ← quantile (sorted times) (99 / 100)
    return {
      samples := times.length
      lossPct := lossPct
      rttMinMs := some (roundTo 3 s.least)
      rttMeanMs := some (roundTo 3 s.mean)
      rttP50Ms := some (roundTo decimals (orZero (median (sorted times))))
      rttP95Ms := some (roundTo decimals p95)
      rttP99Ms := some (roundTo decimals p99)
      rttMaxMs := some (roundTo 3 s.greatest)
      rttMdevMs := some s.mdev
      rttResolutionMs := some (1 / 10 ^ decimals) }

example : parsePing "time=10.5 ms time=11 ms 2 packets transmitted, 50% packet loss".toList =
    .ok ⟨2, 50, some 10.5, some 10.75, some 11, some 11, some 11, some 11, some 0.25, some 1⟩ := by
  decide +kernel

end CrdbLab.ParsePing
