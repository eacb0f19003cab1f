import Mathlib.Algebra.Order.Field.Rat
import Mathlib.Algebra.Group.Defs
import Mathlib.Algebra.BigOperators.Group.List.Basic
import Mathlib.Algebra.Order.Group.Unbundled.Abs

/-!
Numbers that may be infinite or not a number.

What is finite is kept exactly, so that addition is associative; of a machine number this
keeps the largest magnitude and the special values, and not the rounding.
-/

namespace CrdbLab.Lib.Extended

inductive Number
  | finite (x : ℚ)
  | infinite (negative : Bool)
  | nan
  deriving DecidableEq, Repr

namespace Number

/-- The magnitude from which on a value is out of the range of double precision. -/
def overflowBound : ℚ := 2 ^ 1024 - 2 ^ 970

/-- The value as a double holds it: infinite beyond the range. -/
def ofRat (x : ℚ) : Number :=
  if |x| < overflowBound then finite x else infinite (decide (x < 0))

/-- The part of a finite value before the point. -/
def truncate (x : ℚ) : ℤ := x.num.tdiv x.den

def add : Number → Number → Number
  | finite x, finite y => finite (x + y)
  | finite _, infinite n => infinite n
  | infinite n, finite _ => infinite n
  | infinite n, infinite m => if n = m then infinite n else nan
  | nan, _ => nan
  | _, nan => nan

instance : Zero Number := ⟨finite 0⟩

instance : Add Number := ⟨add⟩

lemma zero_def : (0 : Number) = finite 0 := rfl

@[simp] lemma finite_add (x y : ℚ) : finite x + finite y = finite (x + y) := rfl

@[simp] lemma nan_add (x : Number) : nan + x = nan := by cases x <;> rfl

@[simp] lemma add_nan (x : Number) : x + nan = nan := by cases x <;> rfl

@[simp] lemma finite_add_infinite (x : ℚ) (n : Bool) : finite x + infinite n = infinite n := rfl

@[simp] lemma infinite_add_finite (n : Bool) (x : ℚ) : infinite n + finite x = infinite n := rfl

@[simp] lemma infinite_add_infinite (n m : Bool) :
    infinite n + infinite m = if n = m then infinite n else nan := rfl

lemma add_comm' (x y : Number) : x + y = y + x := by
  cases x with
  | finite x =>
    cases y with
    | finite y => simp [add_comm]
    | infinite n => simp
    | nan => simp
  | infinite n =>
    cases y with
    | finite y => simp
    | infinite m => cases n <;> cases m <;> rfl
    | nan => simp
  | nan => simp

lemma add_assoc' (x y z : Number) : x + y + z = x + (y + z) := by
  cases x with
  | nan => simp
  | finite x =>
    cases y with
    | nan => simp
    | finite y => cases z <;> simp [add_assoc]
    | infinite n =>
      cases z with
      | infinite m => cases n <;> cases m <;> rfl
      | finite z => simp
      | nan => simp
  | infinite n =>
    cases y with
    | nan => simp
    | finite y => cases z <;> simp
    | infinite m =>
      cases z with
      | infinite k => cases n <;> cases m <;> cases k <;> rfl
      | finite z => cases n <;> cases m <;> rfl
      | nan => simp

instance : AddCommMonoid Number where
  add_assoc := add_assoc'
  zero_add x := by cases x <;> simp [zero_def]
  add_zero x := by cases x <;> simp [zero_def]
  add_comm := add_comm'
  nsmul := nsmulRec

/-! ### Differences, order and sums -/

def neg : Number → Number
  | finite x => finite (-x)
  | infinite n => infinite !n
  | nan => nan

instance : Sub Number := ⟨fun x y => x + neg y⟩

def abs : Number → Number
  | finite x => finite |x|
  | infinite _ => infinite false
  | nan => nan

/-- `x < y`. -/
def lt : Number → Number → Bool
  | finite x, finite y => x < y
  | finite _, infinite n => !n
  | infinite n, finite _ => n
  | infinite n, infinite m => n && !m
  | _, _ => false

/-- `x <= y`. -/
def le (x y : Number) : Bool := lt x y || (x == y && x != nan)

lemma ne_of_lt {x y : Number} (h : lt x y = true) : x ≠ y := by
  rintro rfl
  cases x with
  | finite x => simp [lt] at h
  | infinite n => cases n <;> simp [lt] at h
  | nan => simp [lt] at h

/-- No number is at a distance from itself. -/
lemma lt_abs_sub_self {c : ℚ} (hc : 0 ≤ c) (x : Number) : lt (finite c) (abs (x - x)) = false := by
  cases x with
  | finite x =>
    have h : (finite x - finite x : Number) = finite 0 := congrArg finite (add_neg_cancel x)
    rw [h]
    simpa [abs, lt] using hc
  | infinite n => cases n <;> rfl
  | nan => rfl

/-- What a sum is: not a number, infinite one way, or finite. -/
lemma sum_cases (l : List Number) :
    (l.sum = nan ∧ (nan ∈ l ∨ infinite true ∈ l ∧ infinite false ∈ l)) ∨
    (∃ n, l.sum = infinite n ∧ infinite n ∈ l ∧ infinite (!n) ∉ l ∧ nan ∉ l) ∨
    (∃ x, l.sum = finite x ∧ ∀ n, infinite n ∉ l ∧ nan ∉ l) := by
  induction l with
  | nil => exact Or.inr (Or.inr ⟨0, rfl, by simp⟩)
  | cons a l ih =>
    rw [List.sum_cons]
    rcases ih with ⟨hsum, hmem⟩ | ⟨n, hsum, hn, hother, hnan⟩ | ⟨x, hsum, hfin⟩
    · refine Or.inl ⟨by rw [hsum]; simp, ?_⟩
      rcases hmem with h | ⟨h, h'⟩
      · exact Or.inl (List.mem_cons_of_mem a h)
      · exact Or.inr ⟨List.mem_cons_of_mem a h, List.mem_cons_of_mem a h'⟩
    · rw [hsum]
      cases a with
      | finite y =>
        exact Or.inr (Or.inl ⟨n, by simp, by simp [hn], by simp [hother], by simp [hnan]⟩)
      | infinite m =>
        by_cases hm : m = n
        · subst hm
          exact Or.inr (Or.inl ⟨m, by simp, by simp, by simp [hother], by simp [hnan]⟩)
        · refine Or.inl ⟨by simp [hm], Or.inr ?_⟩
          cases m <;> cases n <;> simp_all
      | nan => exact Or.inl ⟨by simp, by simp⟩
    · rw [hsum]
      cases a with
      | finite y => exact Or.inr (Or.inr ⟨y + x, by simp, fun n => by simpa using hfin n⟩)
      | infinite m =>
        refine Or.inr (Or.inl ⟨m, by simp, by simp, ?_, ?_⟩)
        · simpa using (hfin (!m)).1
        · simpa using (hfin m).2
      | nan => exact Or.inl ⟨by simp, by simp⟩

lemma sum_eq_nan_iff {l : List Number} :
    l.sum = nan ↔ nan ∈ l ∨ infinite true ∈ l ∧ infinite false ∈ l := by
  rcases sum_cases l with ⟨hsum, hmem⟩ | ⟨n, hsum, -, hother, hnan⟩ | ⟨x, hsum, hfin⟩
  · exact iff_of_true hsum hmem
  · refine iff_of_false (by simp [hsum]) ?_
    rintro (h | ⟨htrue, hfalse⟩)
    · exact hnan h
    · cases n
      · exact hother htrue
      · exact hother hfalse
  · refine iff_of_false (by simp [hsum]) ?_
    rintro (h | ⟨htrue, -⟩)
    · exact (hfin true).2 h
    · exact (hfin true).1 htrue

lemma sum_eq_infinite_iff {l : List Number} {n : Bool} :
    l.sum = infinite n ↔ infinite n ∈ l ∧ infinite (!n) ∉ l ∧ nan ∉ l := by
  rcases sum_cases l with ⟨hsum, hmem⟩ | ⟨m, hsum, hm, hother, hnan⟩ | ⟨x, hsum, hfin⟩
  · refine iff_of_false (by simp [hsum]) ?_
    rintro ⟨-, hother, hnan⟩
    obtain ⟨htrue, hfalse⟩ := hmem.resolve_left hnan
    cases n
    · exact hother htrue
    · exact hother hfalse
  · rw [hsum]
    constructor
    · rintro ⟨⟩
      exact ⟨hm, hother, hnan⟩
    · rintro ⟨-, hn, -⟩
      by_contra hne
      have hnot : m = !n := Bool.eq_not_of_ne fun h => hne (congrArg infinite h)
      exact hn (hnot ▸ hm)
  · exact iff_of_false (by simp [hsum]) fun h => (hfin n).1 h.1

/-- What can be added to a number without changing it. -/
lemma add_eq_left_iff {x y : Number} (hx : x ≠ nan) :
    x + y = x ↔ y = 0 ∨ ∃ n, x = infinite n ∧ y ≠ infinite (!n) ∧ y ≠ nan := by
  cases x with
  | finite x => cases y <;> simp [zero_def]
  | infinite n =>
    cases y with
    | finite y => simp
    | infinite m => cases n <;> cases m <;> simp [zero_def]
    | nan => simp [zero_def]
  | nan => exact absurd rfl hx

/-! ### Products and quotients -/

/-- `c * x` for a finite `c` that is not zero. -/
def scale (c : ℚ) : Number → Number
  | finite x => finite (c * x)
  | infinite n => infinite (n ^^ decide (c < 0))
  | nan => nan

/-- `x / y` for a `y` that is not zero. -/
def div : Number → Number → Number
  | finite x, finite y => finite (x / y)
  | finite _, infinite _ => 0
  | infinite n, finite y => infinite (n ^^ decide (y < 0))
  | _, _ => nan

def isFinite : Number → Bool
  | finite _ => true
  | _ => false

/-- The value of a finite number. -/
def toRat : Number → ℚ
  | finite x => x
  | _ => 0

lemma eq_finite {x : Number} (h : x.isFinite = true) : x = finite x.toRat := by
  cases x with
  | finite x => rfl
  | infinite n => cases h
  | nan => cases h

@[simp] lemma finite_sub (x y : ℚ) : finite x - finite y = finite (x - y) :=
  congrArg finite (sub_eq_add_neg x y).symm

@[simp] lemma lt_finite {x y : ℚ} : lt (finite x) (finite y) = true ↔ x < y := by
  simp [lt]

@[simp] lemma le_finite {x y : ℚ} : le (finite x) (finite y) = true ↔ x ≤ y := by
  simp [le, lt, le_iff_lt_or_eq]

lemma sum_map_finite {A : Type*} (f : A → ℚ) (l : List A) :
    (l.map fun a => finite (f a)).sum = finite (l.map f).sum := by
  induction l with
  | nil => rfl
  | cons a l ih => simp [ih]

end Number

end CrdbLab.Lib.Extended
