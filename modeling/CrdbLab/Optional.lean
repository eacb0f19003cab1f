import CrdbLab.Lib.Rounding

/-!
Optional numbers as the source tests them.

A value that may be missing is tested either for being missing or for being falsy, and a
recorded zero is falsy too. The two tests differ on a zero, so both are kept apart here.
-/

namespace CrdbLab.Optional

open CrdbLab.Lib.Rounding

/-- The truth value of an optional number: neither missing nor zero. -/
def truthy : Option ℚ → Bool
  | none => false
  | some x => decide (x ≠ 0)

/-- `a or b`. -/
def orElse (a b : Option ℚ) : Option ℚ := if truthy a then a else b

/-- `a or 0.0`. -/
def orZero (a : Option ℚ) : ℚ := a.getD 0

/-- `round(a, n) if a is not None else None`. -/
def rounded (n : ℕ) (a : Option ℚ) : Option ℚ := a.map (roundTo n)

/-- `round(a, n) if a else None`. -/
def roundedIf (n : ℕ) (a : Option ℚ) : Option ℚ := if truthy a then rounded n a else none

@[simp] lemma truthy_none : truthy none = false := rfl

@[simp] lemma truthy_some (x : ℚ) : truthy (some x) = decide (x ≠ 0) := rfl

lemma truthy_iff {a : Option ℚ} : truthy a = true ↔ a ≠ none ∧ a ≠ some 0 := by
  cases a <;> simp

lemma orElse_of_truthy {a : Option ℚ} (h : truthy a = true) (b : Option ℚ) : orElse a b = a :=
  if_pos h

lemma orElse_of_falsy {a : Option ℚ} (h : truthy a = false) (b : Option ℚ) : orElse a b = b := by
  simp [orElse, h]

@[simp] lemma orZero_some (x : ℚ) : orZero (some x) = x := rfl

@[simp] lemma orZero_none : orZero none = 0 := rfl

@[simp] lemma rounded_none (n : ℕ) : rounded n none = none := rfl

@[simp] lemma rounded_some (n : ℕ) (x : ℚ) : rounded n (some x) = some (roundTo n x) := rfl

end CrdbLab.Optional
