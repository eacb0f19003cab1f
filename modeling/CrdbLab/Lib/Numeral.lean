import CrdbLab.Lib.Extended
import Mathlib.Data.List.Induction
import Mathlib.Data.List.TakeWhile
import Mathlib.Tactic.NormNum

/-!
Numbers read from text.

A digit is any decimal digit of the character set, and one underscore may stand between two
of them. The reading of a decimal goes from left to right: a sign, the digits before the
point, those after it, and an exponent; what is read so is also what a pattern for numerals
takes apart.
-/

namespace CrdbLab.Lib.Numeral

open CrdbLab.Lib.Extended

/-- The code points of the zeros of the decimal digit ranges. -/
def digitZeros : List ℕ :=
  [0x30, 0x660, 0x6f0, 0x7c0, 0x966, 0x9e6, 0xa66, 0xae6, 0xb66, 0xbe6, 0xc66, 0xce6, 0xd66,
   0xde6, 0xe50, 0xed0, 0xf20, 0x1040, 0x1090, 0x17e0, 0x1810, 0x1946, 0x19d0, 0x1a80, 0x1a90,
   0x1b50, 0x1bb0, 0x1c40, 0x1c50, 0xa620, 0xa8d0, 0xa900, 0xa9d0, 0xa9f0, 0xaa50, 0xabf0,
   0xff10, 0x104a0, 0x10d30, 0x11066, 0x110f0, 0x11136, 0x111d0, 0x112f0, 0x11450, 0x114d0,
   0x11650, 0x116c0, 0x11730, 0x118e0, 0x11950, 0x11c50, 0x11d50, 0x11da0, 0x16a60, 0x16ac0,
   0x16b50, 0x1d7ce, 0x1d7d8, 0x1d7e2, 0x1d7ec, 0x1d7f6, 0x1e140, 0x1e2f0, 0x1e950, 0x1fbf0]

/-- The value of a decimal digit. -/
def digit? (c : Char) : Option ℕ :=
  (digitZeros.find? fun z => z ≤ c.toNat && c.toNat < z + 10).map fun z => c.toNat - z

def isDigit (c : Char) : Bool := (digit? c).isSome

/-- White space. -/
def isSpace (c : Char) : Bool :=
  (9 ≤ c.toNat && c.toNat ≤ 13) || (0x1c ≤ c.toNat && c.toNat ≤ 0x20) ||
    [0x85, 0xa0, 0x1680, 0x2028, 0x2029, 0x202f, 0x205f, 0x3000].contains c.toNat ||
    (0x2000 ≤ c.toNat && c.toNat ≤ 0x200a)

/-- The white space that may stand around a number. -/
def isNumberSpace (c : Char) : Bool := isSpace c && !(0x1c ≤ c.toNat && c.toNat ≤ 0x1f)

/-! ### Cutting text -/

/-- Without the characters of the class at the end. -/
def rstrip (p : Char → Bool) (s : List Char) : List Char := (s.reverse.dropWhile p).reverse

/-- Without the characters of the class at either end. -/
def strip (p : Char → Bool) (s : List Char) : List Char := rstrip p (s.dropWhile p)

/-- The pieces between the characters of the class, without the empty ones. -/
def pieces (p : Char → Bool) (s : List Char) : List (List Char) :=
  (s.splitOnP p).filter (· ≠ [])

/-! ### Reading numbers -/

/-- The value of a row of digits. -/
def value (ds : List Char) : ℕ := ds.foldl (fun n c => 10 * n + (digit? c).getD 0) 0

/-- A leading sign and what follows it. -/
def sign : List Char → Bool × List Char
  | '-' :: s => (true, s)
  | '+' :: s => (false, s)
  | s => (false, s)

def applySign (negative : Bool) (n : ℤ) : ℤ := if negative then -n else n

/-- Whether every underscore stands between two digits, the first character coming after a
digit or not. -/
def separated (afterDigit : Bool) : List Char → Bool
  | [] => true
  | ['_'] => false
  | '_' :: c :: s => afterDigit && isDigit c && separated true s
  | c :: s => separated (isDigit c) s

def isExponentMark (c : Char) : Bool := c = 'e' || c = 'E'

/-- The exponent that the rest of a decimal denotes. -/
def exponent : List Char → Option ℤ
  | [] => some 0
  | c :: s =>
    let (negative, ds) := sign s
    if isExponentMark c && ds ≠ [] && ds.all isDigit then some (applySign negative (value ds))
    else none

/-- The digits after the point, if there is one, and what follows them. -/
def fraction : List Char → List Char × List Char
  | '.' :: s => (s.takeWhile isDigit, s.dropWhile isDigit)
  | s => ([], s)

/-- The value of a decimal without a sign. -/
def decimal (s : List Char) : Option ℚ :=
  let whole := s.takeWhile isDigit
  let (frac, rest) := fraction (s.dropWhile isDigit)
  if whole = [] ∧ frac = [] then none
  else (exponent rest).map fun e : ℤ => (value (whole ++ frac) : ℚ) * 10 ^ (e - frac.length)

/-- The words for an infinite value, and the one for none. -/
def infinityWords : List (List Char) := ["inf".toList, "infinity".toList]

def nanWord : List Char := "nan".toList

/-- The value of a signed decimal or of a word. -/
def number (s : List Char) : Option Number :=
  let (negative, body) := sign s
  if body.map Char.toLower ∈ infinityWords then some (.infinite negative)
  else if body.map Char.toLower = nanWord then some .nan
  else (decimal body).map fun x => .ofRat (if negative then -x else x)

/-- The number a text stands for, white space around it and underscores between digits left
aside. -/
def float (text : String) : Option Number :=
  let s := strip isNumberSpace text.toList
  if separated false s then number (s.filter (· ≠ '_')) else none

/-- The most digits that are converted to an integer. -/
def maxDigits : ℕ := 4300

/-- The integer a text stands for. -/
def int (text : String) : Option ℤ :=
  let s := strip isNumberSpace text.toList
  let (negative, ds) := sign (s.filter (· ≠ '_'))
  if separated false s && ds ≠ [] && ds.all isDigit && ds.length ≤ maxDigits then
    some (applySign negative (value ds))
  else none

/-! ### The digits of a number -/

lemma digit?_lt {c : Char} {d : ℕ} (h : digit? c = some d) : d < 10 := by
  obtain ⟨z, hz, rfl⟩ := Option.map_eq_some_iff.mp h
  have hrange := List.find?_some hz
  simp only [Bool.and_eq_true, decide_eq_true_eq] at hrange
  omega

lemma digit?_digitChar {d : ℕ} (h : d < 10) : digit? (Nat.digitChar d) = some d := by
  have hall : ∀ d < 10, digit? (Nat.digitChar d) = some d := by decide
  exact hall d h

lemma value_append (s : List Char) (c : Char) :
    value (s ++ [c]) = 10 * value s + (digit? c).getD 0 := by
  simp [value]

lemma value_lt (s : List Char) : value s < 10 ^ s.length := by
  induction s using List.reverseRecOn with
  | nil => simp [value]
  | append_singleton s c ih =>
    have hd : (digit? c).getD 0 < 10 := by
      cases h : digit? c with
      | none => simp
      | some d => simpa using digit?_lt h
    rw [value_append, List.length_append, List.length_singleton, pow_succ]
    omega

lemma value_toDigits (n : ℕ) : value (Nat.toDigits 10 n) = n := by
  induction n using Nat.strongRecOn with
  | ind n ih =>
    rw [Nat.toDigits_eq_if (by decide)]
    split_ifs with h
    · simp [value, digit?_digitChar h]
    · have hmod : n % 10 < 10 := Nat.mod_lt n (by decide)
      rw [value_append, ih (n / 10) (by omega), digit?_digitChar hmod, Option.getD_some]
      omega

lemma exists_of_mem_toDigits {n : ℕ} {c : Char} (h : c ∈ Nat.toDigits 10 n) :
    ∃ d < 10, c = Nat.digitChar d := by
  induction n using Nat.strongRecOn with
  | ind n ih =>
    rw [Nat.toDigits_eq_if (by decide)] at h
    split_ifs at h with hn
    · exact ⟨n, hn, List.mem_singleton.mp h⟩
    · rcases List.mem_append.mp h with h' | h'
      · exact ih (n / 10) (by omega) h'
      · exact ⟨n % 10, Nat.mod_lt n (by decide), List.mem_singleton.mp h'⟩

lemma isDigit_toDigits {n : ℕ} {c : Char} (h : c ∈ Nat.toDigits 10 n) : isDigit c = true := by
  obtain ⟨d, hd, rfl⟩ := exists_of_mem_toDigits h
  simp [isDigit, digit?_digitChar hd]

lemma isSpace_toDigits {n : ℕ} {c : Char} (h : c ∈ Nat.toDigits 10 n) : isSpace c = false := by
  obtain ⟨d, hd, rfl⟩ := exists_of_mem_toDigits h
  have hall : ∀ d < 10, isSpace (Nat.digitChar d) = false := by decide
  exact hall d hd

lemma isNumberSpace_of_not_space {c : Char} (h : isSpace c = false) : isNumberSpace c = false := by
  rw [isNumberSpace, h, Bool.false_and]

/-- No other character stands among the digits of a number. -/
lemma not_mem_toDigits {n : ℕ} {c : Char} (hc : isDigit c = false) : c ∉ Nat.toDigits 10 n := by
  intro h
  rw [isDigit_toDigits h] at hc
  cases hc

/-! ### White space -/

lemma dropWhile_eq_self {p : Char → Bool} {s : List Char} (h : ∀ c ∈ s.head?, p c = false) :
    s.dropWhile p = s := by
  cases s with
  | nil => rfl
  | cons c t => simp [h c rfl]

lemma rstrip_append_singleton (p : Char → Bool) (s : List Char) (c : Char) :
    rstrip p (s ++ [c]) = if p c then rstrip p s else s ++ [c] := by
  unfold rstrip
  rw [List.reverse_append, List.reverse_singleton, List.singleton_append, List.dropWhile_cons]
  split <;> simp

lemma rstrip_eq_self {p : Char → Bool} {s : List Char} (h : ∀ c ∈ s.getLast?, p c = false) :
    rstrip p s = s := by
  unfold rstrip
  rw [dropWhile_eq_self (by simpa using h), List.reverse_reverse]

/-- A space at the end is cut off. -/
lemma strip_append_singleton {p : Char → Bool} {c : Char} (hc : p c = true) (s : List Char) :
    strip p (s ++ [c]) = strip p s := by
  unfold strip
  rw [List.dropWhile_append]
  split
  · next hempty =>
    rw [List.isEmpty_iff.mp hempty, List.dropWhile_cons_of_pos hc]
    rfl
  · rw [rstrip_append_singleton, if_pos hc]

/-- White space inside a text stays. -/
lemma strip_of_ends {p : Char → Bool} {s : List Char} (hfirst : ∀ c ∈ s.head?, p c = false)
    (hlast : ∀ c ∈ s.getLast?, p c = false) : strip p s = s := by
  rw [strip, dropWhile_eq_self hfirst, rstrip_eq_self hlast]

lemma strip_eq_self {p : Char → Bool} {s : List Char} (h : ∀ c ∈ s, p c = false) :
    strip p s = s :=
  strip_of_ends (fun c hc => h c (List.mem_of_mem_head? hc))
    fun c hc => h c (List.mem_of_mem_getLast? hc)

/-- The pieces of a text that starts with one. -/
lemma pieces_append_cons {p : Char → Bool} {w : List Char} (hne : w ≠ [])
    (hw : ∀ c ∈ w, p c = false) {sep : Char} (hsep : p sep = true) (s : List Char) :
    pieces p (w ++ sep :: s) = w :: pieces p s := by
  rw [pieces, List.splitOnP_append_cons_of_forall_mem hw sep hsep, List.filter_cons_of_pos, pieces]
  simpa using hne

lemma pieces_of_absent {p : Char → Bool} {w : List Char} (hne : w ≠ [])
    (hw : ∀ c ∈ w, p c = false) : pieces p w = [w] := by
  rw [pieces, List.splitOnP_eq_singleton hw, List.filter_cons_of_pos, List.filter_nil]
  simpa using hne

/-! ### Integers read back -/

lemma separated_of_absent {s : List Char} (h : '_' ∉ s) (afterDigit : Bool) :
    separated afterDigit s = true := by
  induction s generalizing afterDigit with
  | nil => rfl
  | cons c s ih =>
    have hc : c ≠ '_' := fun he => h (he ▸ List.mem_cons_self)
    rw [separated]
    · exact ih (fun hs => h (List.mem_cons_of_mem c hs)) _
    · intro he
      exact absurd he hc
    · intro _ _ he
      exact absurd he hc

lemma sign_of_absent {s : List Char} (hminus : '-' ∉ s) (hplus : '+' ∉ s) :
    sign s = (false, s) := by
  unfold sign
  split
  · exact absurd List.mem_cons_self hminus
  · exact absurd List.mem_cons_self hplus
  · rfl

/-- The decimal digits of a number are read as that number. -/
lemma int_toDigits {n : ℕ} (h : n < 10 ^ maxDigits) :
    int (String.ofList (Nat.toDigits 10 n)) = some (n : ℤ) := by
  have hunderscore : '_' ∉ Nat.toDigits 10 n := not_mem_toDigits (by decide)
  have hfilter : (Nat.toDigits 10 n).filter (· ≠ '_') = Nat.toDigits 10 n :=
    List.filter_eq_self.mpr fun c hc => by
      simpa using fun he : c = '_' => hunderscore (he ▸ hc)
  have hlength : (Nat.toDigits 10 n).length ≤ maxDigits :=
    (Nat.length_toDigits_le_iff (by decide) (by decide)).mpr h
  have hdigits : (Nat.toDigits 10 n).all isDigit = true :=
    List.all_eq_true.mpr fun c hc => isDigit_toDigits hc
  have hne : Nat.toDigits 10 n ≠ [] := Nat.toDigits_ne_nil
  unfold int
  rw [String.toList_ofList,
    strip_eq_self fun c hc => isNumberSpace_of_not_space (isSpace_toDigits hc)]
  simp only [hfilter, sign_of_absent (not_mem_toDigits (c := '-') (by decide))
    (not_mem_toDigits (c := '+') (by decide)), separated_of_absent hunderscore, hdigits,
    hlength, applySign, value_toDigits]
  simp

end CrdbLab.Lib.Numeral
