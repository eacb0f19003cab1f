import Mathlib.Data.List.Basic
import Mathlib.Order.Monotone.Basic

/-!
A log that is cut when it grows too long, and a reader that remembers how long it was.

`gone n` of the first `n` entries are no longer there. Where the log was cut since the reader last
looked, it does not see as many entries as were cut.
-/

namespace CrdbLab.Lib.Trimmed

variable {α : Type*} (limit cut : ℕ)

/-- One more entry; beyond the limit the oldest are dropped. -/
def push (log : List α) (a : α) : List α :=
  if limit < (log ++ [a]).length then (log ++ [a]).drop cut else log ++ [a]

/-- How many of the first `n` entries were dropped. -/
def gone : ℕ → ℕ
  | 0 => 0
  | n + 1 => if limit < n + 1 - gone n then gone n + cut else gone n

variable {limit cut}

lemma gone_le (hcut : cut ≤ limit) (n : ℕ) : gone limit cut n ≤ n := by
  induction n with
  | zero => exact le_refl 0
  | succ n ih =>
    rw [gone]
    split
    · omega
    · omega

lemma gone_mono : Monotone (gone limit cut) := by
  refine monotone_nat_of_le_succ fun n => ?_
  rw [gone]
  split
  · exact Nat.le_add_right _ _
  · exact le_refl _

/-- **What the log holds** are the entries that are not gone. -/
lemma push_drop (hcut : cut ≤ limit) (l : List α) (a : α) :
    push limit cut (l.drop (gone limit cut l.length)) a =
      (l ++ [a]).drop (gone limit cut (l.length + 1)) := by
  have hle := gone_le hcut l.length
  have happend : l.drop (gone limit cut l.length) ++ [a] =
      (l ++ [a]).drop (gone limit cut l.length) := by
    rw [List.drop_append_of_le_length hle]
  have hlength : ((l ++ [a]).drop (gone limit cut l.length)).length =
      l.length + 1 - gone limit cut l.length := by
    rw [List.length_drop, List.length_append, List.length_singleton]
  rw [push, happend, hlength, gone]
  split
  · rw [List.drop_drop]
  · rfl

/-- The log is never longer than the limit. -/
lemma length_drop_gone_le (hcut : cut ≤ limit) (hpos : 0 < cut) (n : ℕ) :
    n - gone limit cut n ≤ limit := by
  induction n with
  | zero => exact Nat.zero_le _
  | succ n ih =>
    have hle := gone_le hcut n
    rw [gone]
    split
    · omega
    · omega

/-- **What a reader sees** that looked when there were `m` entries: what came since, but for as
many of the first of these as were cut. -/
lemma drop_read (hcut : cut ≤ limit) {m : ℕ} (l : List α) (hm : m ≤ l.length) :
    (l.drop (gone limit cut l.length)).drop (m - gone limit cut m) =
      l.drop (m + (gone limit cut l.length - gone limit cut m)) := by
  have hgone := gone_le hcut m
  have hmono : gone limit cut m ≤ gone limit cut l.length := gone_mono hm
  rw [List.drop_drop]
  congr 1
  omega

end CrdbLab.Lib.Trimmed
