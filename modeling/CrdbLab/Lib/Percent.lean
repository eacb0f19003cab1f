import Mathlib.Data.List.Basic

/-!
Percent encoding.

A byte that is not a letter, a digit or one of four marks is written as a percent sign and its two
hexadecimal digits. What was written is read back byte for byte, in front of whatever follows.
-/

namespace CrdbLab.Lib.Percent

/-- A byte that stands for itself in any part of an address. -/
def isUnreserved (b : UInt8) : Bool :=
  ('A'.toNat ≤ b.toNat && b.toNat ≤ 'Z'.toNat) || ('a'.toNat ≤ b.toNat && b.toNat ≤ 'z'.toNat) ||
    ('0'.toNat ≤ b.toNat && b.toNat ≤ '9'.toNat) ||
    b.toNat ∈ ['_'.toNat, '.'.toNat, '-'.toNat, '~'.toNat]

def hexDigits : List Char :=
  ['0', '1', '2', '3', '4', '5', '6', '7', '8', '9', 'A', 'B', 'C', 'D', 'E', 'F']

def hexDigit (n : ℕ) : Char := hexDigits.getD n '0'

/-- The value of a hexadecimal digit, of either case. -/
def hexValue (c : Char) : Option ℕ :=
  if '0'.toNat ≤ c.toNat ∧ c.toNat ≤ '9'.toNat then some (c.toNat - '0'.toNat)
  else if 'A'.toNat ≤ c.toNat ∧ c.toNat ≤ 'F'.toNat then some (c.toNat - 'A'.toNat + 10)
  else if 'a'.toNat ≤ c.toNat ∧ c.toNat ≤ 'f'.toNat then some (c.toNat - 'a'.toNat + 10)
  else none

def quoteByte (b : UInt8) : List Char :=
  if isUnreserved b then [Char.ofNat b.toNat]
  else ['%', hexDigit (b.toNat / 16), hexDigit (b.toNat % 16)]

def quote (bytes : List UInt8) : List Char := bytes.flatMap quoteByte

/-- The bytes a text stands for; `none` if a percent sign is not followed by two digits. -/
def unquote : List Char → Option (List UInt8)
  | [] => some []
  | '%' :: c :: d :: text =>
    match hexValue c, hexValue d with
    | some hi, some lo => (unquote text).map fun bytes => UInt8.ofNat (16 * hi + lo) :: bytes
    | _, _ => none
  | '%' :: _ => none
  | c :: text => (unquote text).map fun bytes => String.utf8EncodeChar c ++ bytes

/-! ### Round trip -/

lemma hexValue_hexDigit : ∀ n < 16, hexValue (hexDigit n) = some n := by decide

/-- What a byte is written with. -/
def isWritten (c : Char) : Bool := c = '%' || isUnreserved (UInt8.ofNat c.toNat) && c.toNat < 128

lemma hexDigit_isWritten : ∀ n < 16, isWritten (hexDigit n) = true := by decide

lemma unreserved_spec : ∀ n < 256, isUnreserved (UInt8.ofNat n) = true →
    isWritten (Char.ofNat n) = true ∧ Char.ofNat n ≠ '%' ∧
      String.utf8EncodeChar (Char.ofNat n) = [UInt8.ofNat n] := by
  decide +kernel

lemma unquote_quoteByte (b : UInt8) (text : List Char) :
    unquote (quoteByte b ++ text) = (unquote text).map fun bytes => b :: bytes := by
  have hb : b.toNat < 256 := b.toNat_lt
  unfold quoteByte
  split
  · next h =>
    obtain ⟨-, hne, hencode⟩ := unreserved_spec b.toNat hb (by rwa [UInt8.ofNat_toNat])
    rw [UInt8.ofNat_toNat] at hencode
    rw [List.singleton_append, unquote, hencode]
    · rfl
    · intro c d t heq
      exact absurd heq hne
    · exact hne
  · have hhi : b.toNat / 16 < 16 := by omega
    have hlo : b.toNat % 16 < 16 := Nat.mod_lt _ (by omega)
    have hdiv : 16 * (b.toNat / 16) + b.toNat % 16 = b.toNat := Nat.div_add_mod _ _
    simp only [List.cons_append, List.nil_append, unquote, hexValue_hexDigit _ hhi,
      hexValue_hexDigit _ hlo, hdiv, UInt8.ofNat_toNat]

/-- **Round trip**: the bytes that were quoted are read, whatever follows. -/
theorem unquote_quote_append (bytes : List UInt8) (text : List Char) :
    unquote (quote bytes ++ text) = (unquote text).map fun rest => bytes ++ rest := by
  induction bytes with
  | nil => simp [quote]
  | cons b bytes ih =>
    have hcons : quote (b :: bytes) = quoteByte b ++ quote bytes := List.flatMap_cons
    rw [hcons, List.append_assoc, unquote_quoteByte, ih, Option.map_map]
    rfl

theorem unquote_quote (bytes : List UInt8) : unquote (quote bytes) = some bytes := by
  have h := unquote_quote_append bytes []
  rwa [List.append_nil, unquote, Option.map_some, List.append_nil] at h

lemma isWritten_of_mem_quote {bytes : List UInt8} {c : Char} (h : c ∈ quote bytes) :
    isWritten c = true := by
  obtain ⟨b, -, hc⟩ := List.mem_flatMap.mp h
  have hb : b.toNat < 256 := b.toNat_lt
  unfold quoteByte at hc
  split at hc
  · next hun =>
    rw [List.mem_singleton] at hc
    rw [hc]
    exact (unreserved_spec b.toNat hb (by rwa [UInt8.ofNat_toNat])).1
  · simp only [List.mem_cons, List.not_mem_nil, or_false] at hc
    rcases hc with rfl | rfl | rfl
    · decide
    · exact hexDigit_isWritten _ (by omega)
    · exact hexDigit_isWritten _ (Nat.mod_lt _ (by omega))

end CrdbLab.Lib.Percent
