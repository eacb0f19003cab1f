import CrdbLab.Lib.Fallible
import CrdbLab.Lib.Fields
import CrdbLab.Lib.Numeral
import CrdbLab.Lib.Rounding
import Mathlib.Data.Int.Log

/-!
What a run manifest says of the servers, and how its notes are written.

A note is free text behind a time stamp. The server's command line, the host and the memory of
PostgreSQL are each found by a mark, in the first note that holds it; of the last two the
fields are read back from a line of `key=value` parts.
-/

namespace CrdbLab.ManifestNotes

open CrdbLab.Lib.Extended CrdbLab.Lib.Fallible CrdbLab.Lib.Fields CrdbLab.Lib.Numeral

/-- The exceptions that reading a manifest or comparing two can end with. -/
inductive PyError | valueError | overflowError | zeroDivisionError
  deriving DecidableEq, Repr

/-! ### The manifest -/

/-- The value of a workload parameter. -/
inductive Value
  | none
  | bool (b : Bool)
  | int (n : ℤ)
  | float (x : Number)
  | str (s : String)
  deriving DecidableEq, Repr

structure Profile where
  workload : Option (List (String × Value)) := none
  deriving DecidableEq, Repr

/-- A manifest as it is read back; what is not recorded is missing. -/
structure Manifest where
  engine : Option String := none
  profile : Option Profile := none
  serverVersion : Option String := none
  cockroachVersion : Option String := none
  notes : Option (List String) := none
  deriving DecidableEq, Repr

def Manifest.workload (m : Manifest) : List (String × Value) :=
  ((m.profile.getD {}).workload).getD []

/-- A workload parameter, missing or `null` alike. -/
def Manifest.parameter (m : Manifest) (key : String) : Value := (lastOf key m.workload).getD .none

/-- The first note that holds the mark, with what follows the mark in it. -/
def Manifest.marked (m : Manifest) (mark : String) : Option (List Char × List Char) :=
  (m.notes.getD []).findSome? fun note =>
    (after mark.toList note.toList).map fun rest => (note.toList, rest)

/-! ### Counts -/

/-- The ranges of the characters that are digits and not decimal digits. -/
def otherDigits : List (ℕ × ℕ) :=
  [(0xb2, 0xb3), (0xb9, 0xb9), (0x1369, 0x1371), (0x19da, 0x19da), (0x2070, 0x2070),
   (0x2074, 0x2079), (0x2080, 0x2089), (0x2460, 0x2468), (0x2474, 0x247c), (0x2488, 0x2490),
   (0x24ea, 0x24ea), (0x24f5, 0x24fd), (0x24ff, 0x24ff), (0x2776, 0x277e), (0x2780, 0x2788),
   (0x278a, 0x2792), (0x10a40, 0x10a43), (0x10e60, 0x10e68), (0x11052, 0x1105a),
   (0x1f100, 0x1f10a)]

/-- `str.isdigit`, which holds of more than `int` reads. -/
def isDigitText (s : List Char) : Bool :=
  s ≠ [] && s.all fun c =>
    isDigit c || otherDigits.any fun r => r.1 ≤ c.toNat && c.toNat ≤ r.2

/-- `int` of a digit string. -/
def intOfDigits (s : List Char) : Except PyError ℕ :=
  if s.all isDigit ∧ s.length ≤ maxDigits then .ok (value s) else .error .valueError

/-- A count that was recorded in digits. -/
def readCount (recorded : Option (List Char)) : Except PyError (Option ℕ) :=
  match recorded with
  | none => .ok none
  | some s => if isDigitText s then (intOfDigits s).map some else .ok none

/-- What is recorded is a digit string that `int` does not read. -/
def Refused (recorded : Option (List Char)) : Prop :=
  ∃ s, recorded = some s ∧ isDigitText s = true ∧ ¬ (s.all isDigit = true ∧ s.length ≤ maxDigits)

lemma readCount_error_iff {recorded : Option (List Char)} {e : PyError} :
    readCount recorded = .error e ↔ e = .valueError ∧ Refused recorded := by
  cases recorded with
  | none => simp [readCount, Refused]
  | some s =>
    by_cases hdigits : isDigitText s = true
    · have hread : readCount (some s) = (intOfDigits s).map some := if_pos hdigits
      rw [hread, map_eq_error_iff, intOfDigits]
      split_ifs with hint
      · simp only [Refused, Option.some.injEq, exists_eq_left', hint, and_self, not_true_eq_false,
          and_false]
      · simp only [Refused, Except.error.injEq, Option.some.injEq, exists_eq_left', hdigits, hint,
          not_false_eq_true, and_true, eq_comm (a := e)]
    · simp [readCount, Refused, hdigits]

/-! ### Reading the notes -/

/-- The command line that the server was started with. -/
def serverCommand (m : Manifest) : Option (List Char) := (m.marked " server: ").map Prod.snd

/-- The flags of a command line, a bare one with an empty value. -/
def serverFlags (command : List Char) : List (List Char × List Char) :=
  ((pieces isSpace command).filter fun token => "--".toList.isPrefixOf token).map fun token =>
    (token.takeWhile (· ≠ '='), (after ['='] token).getD [])

structure Hardware where
  cpus : Option ℕ := none
  cpuModel : Option String := none
  memTotalKb : Option ℕ := none
  deriving DecidableEq, Repr

structure PgMemory where
  sharedBuffersKb : Option ℕ
  effectiveCacheSizeKb : Option ℕ
  deriving DecidableEq, Repr

/-- A field of a line of `key=value` parts. -/
def noteField (key : String) (line : List Char) : Option (List Char) :=
  field ' ' '=' key.toList line

/-- Two counts of one line. -/
def readCounts (first second : String) (line : List Char) :
    Except PyError (Option ℕ × Option ℕ) := do
  let x ← readCount (noteField first line)
  let y ← readCount (noteField second line)
  return (x, y)

lemma readCounts_error_iff {first second : String} {line : List Char} {e : PyError} :
    readCounts first second line = .error e ↔
      e = .valueError ∧ (Refused (noteField first line) ∨ Refused (noteField second line)) := by
  unfold readCounts
  cases hx : readCount (noteField first line) with
  | error e' =>
    obtain ⟨rfl, hrefused⟩ := readCount_error_iff.mp hx
    simp [bind, Except.bind, hrefused, eq_comm]
  | ok x =>
    have hx' : ¬ Refused (noteField first line) := fun h =>
      absurd (readCount_error_iff.mpr ⟨rfl, h⟩) (by simp [hx])
    rw [or_iff_right hx', ← readCount_error_iff]
    cases readCount (noteField second line) <;> simp [bind, Except.bind, pure, Except.pure]

lemma readCounts_eq_ok_iff {first second : String} {line : List Char}
    {counts : Option ℕ × Option ℕ} :
    readCounts first second line = .ok counts ↔
      readCount (noteField first line) = .ok counts.1 ∧
        readCount (noteField second line) = .ok counts.2 := by
  obtain ⟨x, y⟩ := counts
  simp only [readCounts, bind_eq_ok_iff, pure, Except.pure, Except.ok.injEq, Prod.mk.injEq]
  constructor
  · rintro ⟨x', hx, y', hy, rfl, rfl⟩
    exact ⟨hx, hy⟩
  · rintro ⟨hx, hy⟩
    exact ⟨x, hx, y, hy, rfl, rfl⟩

/-- The first note that holds the mark, with two counts of the line behind it. -/
def countsOf (m : Manifest) (mark first second : String) :
    Except PyError (Option (List Char × Option ℕ × Option ℕ)) :=
  match m.marked mark with
  | none => .ok none
  | some (note, line) => (readCounts first second line).map fun counts => some (note, counts)

/-- The host of a run. The model of its processor is what follows the last key of the line. -/
def hostHardware (m : Manifest) : Except PyError (Option Hardware) :=
  (countsOf m " host: " "cpus" "mem_total_kb").map fun found => found.map fun (note, cpus, mem) =>
    { cpus := cpus
      memTotalKb := mem
      cpuModel := (after "cpu_model=".toList note).map String.ofList }

/-- The memory that PostgreSQL was given. -/
def pgCacheConfig (m : Manifest) : Except PyError (Option PgMemory) :=
  (countsOf m " pg memory: " "shared_buffers_kb" "effective_cache_size_kb").map fun found =>
    found.map fun (_, sb, ec) => { sharedBuffersKb := sb, effectiveCacheSizeKb := ec }

/-- Neither count is refused. -/
def CountsReadable (m : Manifest) (mark first second : String) : Prop :=
  ∀ note line, m.marked mark = some (note, line) →
    ¬ Refused (noteField first line) ∧ ¬ Refused (noteField second line)

/-- No count that the note of the host records is refused. -/
def HostReadable (m : Manifest) : Prop := CountsReadable m " host: " "cpus" "mem_total_kb"

/-- No count that the note of PostgreSQL's memory records is refused. -/
def PgReadable (m : Manifest) : Prop :=
  CountsReadable m " pg memory: " "shared_buffers_kb" "effective_cache_size_kb"

lemma countsOf_error_iff {m : Manifest} {mark first second : String} {e : PyError} :
    countsOf m mark first second = .error e ↔
      e = .valueError ∧ ¬ CountsReadable m mark first second := by
  unfold countsOf CountsReadable
  cases m.marked mark with
  | none => simp
  | some p =>
    obtain ⟨note, line⟩ := p
    change Except.map _ _ = _ ↔ _
    rw [map_eq_error_iff, readCounts_error_iff]
    simp [or_iff_not_imp_left]

lemma completes_countsOf {m : Manifest} {mark first second : String} :
    Completes (countsOf m mark first second) ↔ CountsReadable m mark first second := by
  simp only [completes_iff, ne_eq, countsOf_error_iff, not_and, not_not]
  exact ⟨fun h => h _ rfl, fun h _ _ => h⟩

/-- Reading a host ends with one exception only. -/
lemma hostHardware_error {m : Manifest} {e : PyError} (h : hostHardware m = .error e) :
    e = .valueError :=
  (countsOf_error_iff.mp (map_eq_error_iff.mp h)).1

lemma completes_hostHardware {m : Manifest} : Completes (hostHardware m) ↔ HostReadable m := by
  rw [hostHardware, completes_map, completes_countsOf, HostReadable]

lemma completes_pgCacheConfig {m : Manifest} : Completes (pgCacheConfig m) ↔ PgReadable m := by
  rw [pgCacheConfig, completes_map, completes_countsOf, PgReadable]

/-! ### Capture -/

def newline : Char := Char.ofNat 10

def isLineBreak (c : Char) : Bool :=
  (10 ≤ c.toNat && c.toNat ≤ 13) || (0x1c ≤ c.toNat && c.toNat ≤ 0x1e) ||
    [0x85, 0x2028, 0x2029].contains c.toNat

/-- The lines of a block that are not blank, without the white space around them. -/
def blockLines (block : List Char) : List (List Char) :=
  ((pieces isLineBreak (strip isSpace block)).map (strip isSpace)).filter (· ≠ [])

def isAsciiDigit (c : Char) : Bool := '0' ≤ c && c ≤ '9'

/-- What one line of the block says of the host. -/
def captureLine (h : Hardware) (line : List Char) : Except PyError Hardware :=
  if isDigitText line then (intOfDigits line).map fun n => { h with cpus := some n }
  else if "MemTotal".toList.isPrefixOf line then
    let digits := line.filter isAsciiDigit
    if digits = [] then .ok { h with memTotalKb := none }
    else (intOfDigits digits).map fun n => { h with memTotalKb := some n }
  else .ok { h with cpuModel := some (String.ofList ([' '].intercalate (pieces isSpace line))) }

/-- Missing fields are missing, never a plausible default that could compare equal. -/
def parseHardware (block : List Char) : Except PyError Hardware :=
  (blockLines block).foldlM captureLine {}

/-- The memory of PostgreSQL as the query on it answered, in kB. -/
def capturePgMemoryConfig (returncode : ℤ) (stdout : List Char) :
    Except PyError (Option PgMemory) :=
  if returncode ≠ 0 then .ok none
  else
    match (((strip isSpace stdout).takeWhile fun c => !isLineBreak c).splitOn ',').map
      (strip isSpace) with
    | [sb, ec] =>
      if isDigitText sb ∧ isDigitText ec then do
        let sharedBuffersBytes ← intOfDigits sb
        let effectiveCacheBytes ← intOfDigits ec
        return some
          { sharedBuffersKb := some (sharedBuffersBytes / 1024)
            effectiveCacheSizeKb := some (effectiveCacheBytes / 1024) }
      else .ok none
    | _ => .ok none

/-! ### Writing the notes -/

/-- The text of a field, `None` for one that was not captured. -/
def countText : Option ℕ → List Char
  | none => "None".toList
  | some n => Nat.toDigits 10 n

/-- `key=value` -/
def part (key : String) (value : List Char) : List Char := key.toList ++ '=' :: value

/-- The model of the processor as it is written. -/
def modelText (h : Hardware) : List Char := (h.cpuModel.map String.toList).getD "None".toList

def formatHardware (h : Hardware) : List Char :=
  part "cpus" (countText h.cpus) ++ ' ' ::
    (part "mem_total_kb" (countText h.memTotalKb) ++ ' ' :: part "cpu_model" (modelText h))

def formatPgMemory (memory : PgMemory) : List Char :=
  part "shared_buffers_kb" (countText memory.sharedBuffersKb) ++ ' ' ::
    part "effective_cache_size_kb" (countText memory.effectiveCacheSizeKb)

end CrdbLab.ManifestNotes
