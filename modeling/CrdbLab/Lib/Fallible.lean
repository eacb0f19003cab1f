import Mathlib.Data.List.Forall2

/-!
Computations that may end with an exception.

What a sequence of them results in is said of its steps: it completes exactly when each step
completes on what the ones before it gave.
-/

namespace CrdbLab.Lib.Fallible

variable {ε α β : Type}

lemma bind_eq_ok_iff {r : Except ε α} {f : α → Except ε β} {y : β} :
    (r >>= f) = .ok y ↔ ∃ x, r = .ok x ∧ f x = .ok y := by
  cases r <;> simp [bind, Except.bind]

lemma map_eq_ok_iff {r : Except ε α} {f : α → β} {y : β} :
    r.map f = .ok y ↔ ∃ x, r = .ok x ∧ f x = y := by
  cases r <;> simp [Except.map]

lemma map_eq_error_iff {r : Except ε α} {f : α → β} {e : ε} :
    r.map f = .error e ↔ r = .error e := by
  cases r <;> simp [Except.map]

/-- The computation gives a result. -/
def Completes (r : Except ε α) : Prop := ∃ x, r = .ok x

@[simp] lemma completes_ok (x : α) : Completes (.ok x : Except ε α) := ⟨x, rfl⟩

@[simp] lemma completes_pure (x : α) : Completes (pure x : Except ε α) := ⟨x, rfl⟩

@[simp] lemma not_completes_error (e : ε) : ¬ Completes (.error e : Except ε α) := by
  rintro ⟨x, hx⟩
  cases hx

lemma completes_iff {r : Except ε α} : Completes r ↔ ∀ e, r ≠ .error e := by
  cases r <;> simp

@[simp] lemma completes_map {r : Except ε α} {f : α → β} :
    Completes (r.map f) ↔ Completes r := by
  simp only [completes_iff, ne_eq, map_eq_error_iff]

lemma completes_bind {r : Except ε α} {f : α → Except ε β} :
    Completes (r >>= f) ↔ ∃ x, r = .ok x ∧ Completes (f x) := by
  simp only [Completes, bind_eq_ok_iff]
  exact ⟨fun ⟨y, x, hr, hf⟩ => ⟨x, hr, y, hf⟩, fun ⟨x, hr, y, hf⟩ => ⟨y, x, hr, hf⟩⟩

/-- What is only computed from a result completes with it. -/
lemma completes_bind_pure {r : Except ε α} {f : α → β} :
    Completes (r >>= fun x => pure (f x)) ↔ Completes r := by
  simp only [completes_bind, completes_pure, and_true]
  exact Iff.rfl

/-! ### Traversals -/

/-- A traversal returns the results of its elements, if each has one. -/
lemma mapM_ok {f : α → Except ε β} {l : List α} {r : List β} :
    l.mapM f = .ok r ↔ List.Forall₂ (fun a b => f a = .ok b) l r := by
  induction l generalizing r with
  | nil => simp [pure, Except.pure, eq_comm]
  | cons a l ih =>
    rw [List.mapM_cons, List.forall₂_cons_left_iff]
    simp only [bind_eq_ok_iff, ih]
    constructor
    · rintro ⟨b, hb, r', hr', hr⟩
      exact ⟨b, r', hb, hr', (Except.ok.inj hr).symm⟩
    · rintro ⟨b, r', hb, hr', rfl⟩
      exact ⟨b, hb, r', hr', rfl⟩

/-- A result comes from one of the elements. -/
lemma exists_of_mapM_ok {f : α → Except ε β} {l : List α} {r : List β}
    (h : l.mapM f = .ok r) {b : β} (hb : b ∈ r) : ∃ a ∈ l, f a = .ok b := by
  have hall := mapM_ok.mp h
  clear h
  induction hall with
  | nil => simp at hb
  | @cons a c l r hc _ ih =>
    rcases List.mem_cons.mp hb with rfl | hb
    · exact ⟨a, by simp, hc⟩
    · obtain ⟨a', ha', hf⟩ := ih hb
      exact ⟨a', List.mem_cons_of_mem a ha', hf⟩

end CrdbLab.Lib.Fallible
