import Mathlib.Data.Option.Basic
import Mathlib.Algebra.BigOperators.Group.Finset.Basic
import Mathlib.Data.Fintype.Basic

/-!
Runs of a partial step function.

`step s a` is the state after action `a` when `a` is enabled in `s`; where the guard and the
effect of the actions are given apart, `guarded` puts them together. A run performs its
actions in turn and exists only when each is enabled. `Along` says that every action of a
run meets a predicate on the state before it, and the rules below carry an invariant
along a run, unconditionally or under such a predicate. Where the state has a pool of threads,
`tally_update` says what a step of one of them does to what they hold together.
-/

namespace CrdbLab.Lib.Runs

variable {S A : Type*} (step : S → A → Option S)

def run : S → List A → Option S
  | s, [] => some s
  | s, a :: as => (step s a).bind fun t => run t as

/-- Every action of the run meets `P` in the state before it. -/
def Along (P : S → A → Prop) : S → List A → Prop
  | _, [] => True
  | s, a :: as => P s a ∧ ∀ t, step s a = some t → Along P t as

@[simp] lemma run_nil (s : S) : run step s [] = some s := rfl

variable {step}

lemma run_cons {s u : S} {a : A} {as : List A} :
    run step s (a :: as) = some u ↔ ∃ t, step s a = some t ∧ run step t as = some u := by
  simp [run, Option.bind_eq_some_iff]

lemma along_cons {P : S → A → Prop} {s t : S} {a : A} {as : List A} (h : step s a = some t) :
    Along step P s (a :: as) ↔ P s a ∧ Along step P t as := by
  simp [Along, h]

/-- Whether a run keeps to a decidable predicate is decided by performing it. -/
instance decidableAlong {P : S → A → Prop} [∀ s a, Decidable (P s a)] :
    (s : S) → (as : List A) → Decidable (Along step P s as)
  | _, [] => .isTrue trivial
  | s, a :: as =>
    match h : step s a with
    | some t =>
      have := decidableAlong (P := P) t as
      decidable_of_iff (P s a ∧ Along step P t as) (along_cons h).symm
    | none => decidable_of_iff (P s a) (by simp [Along, h])

section Guarded

variable {enabled : S → A → Bool} {effect : S → A → S}

variable (enabled effect) in
/-- The step of actions with a guard and an effect. -/
def guarded (s : S) (a : A) : Option S := if enabled s a then some (effect s a) else none

lemma guarded_eq_some {s t : S} {a : A} :
    guarded enabled effect s a = some t ↔ enabled s a = true ∧ effect s a = t := by
  unfold guarded
  split
  · simp_all
  · simp_all

end Guarded

/-- A predicate that holds along a run holds of each action where the run performs it. -/
lemma Along.at {P : S → A → Prop} {s t : S} {a : A} {as bs : List A}
    (h : Along step P s (as ++ a :: bs)) (hrun : run step s as = some t) : P t a := by
  induction as generalizing s with
  | nil =>
    rw [run_nil, Option.some.injEq] at hrun
    exact hrun ▸ h.1
  | cons b as ih =>
    obtain ⟨u, hu, hrest⟩ := run_cons.mp hrun
    exact ih ((along_cons hu).mp h).2 hrest

/-- What one step preserves under `P`, a run along `P` preserves. -/
theorem run_preserves_along {I : S → Prop} {P : S → A → Prop}
    (hstep : ∀ s a t, step s a = some t → P s a → I s → I t) {s u : S} {as : List A}
    (hrun : run step s as = some u) (hP : Along step P s as) (hI : I s) : I u := by
  induction as generalizing s with
  | nil =>
    rw [run_nil, Option.some.injEq] at hrun
    exact hrun ▸ hI
  | cons a as ih =>
    obtain ⟨t, ht, hrest⟩ := run_cons.mp hrun
    obtain ⟨hPa, hPas⟩ := (along_cons ht).mp hP
    exact ih hrest hPas (hstep s a t ht hPa hI)

lemma along_true (s : S) (as : List A) : Along step (fun _ _ => True) s as := by
  induction as generalizing s with
  | nil => trivial
  | cons a as ih => exact ⟨trivial, fun t _ => ih t⟩

/-- What one step preserves, a run preserves. -/
theorem run_preserves {I : S → Prop} (hstep : ∀ s a t, step s a = some t → I s → I t)
    {s u : S} {as : List A} (hrun : run step s as = some u) (hI : I s) : I u := by
  refine run_preserves_along (P := fun _ _ => True) ?_ hrun (along_true s as) hI
  exact fun s a t h _ => hstep s a t h

/-- An invariant that rules an action out wherever it holds rules it out along the run. -/
theorem along_of_invariant {I : S → Prop} {P Q : S → A → Prop}
    (hstep : ∀ s a t, step s a = some t → P s a → I s → I t) (hQ : ∀ s a, I s → Q s a)
    {s : S} {as : List A} (hP : Along step P s as) (hI : I s) : Along step Q s as := by
  induction as generalizing s with
  | nil => trivial
  | cons a as ih =>
    refine ⟨hQ s a hI, fun t ht => ?_⟩
    obtain ⟨hPa, hPas⟩ := (along_cons ht).mp hP
    exact ih hPas (hstep s a t ht hPa hI)

/-- What every step out of an invariant meets, a run that is performed meets throughout. -/
theorem along_of_run {I : S → Prop} {Q : S → A → Prop}
    (hI : ∀ s a t, step s a = some t → I s → I t)
    (hQ : ∀ s a t, step s a = some t → I s → Q s a) {s u : S} {as : List A}
    (hrun : run step s as = some u) (hs : I s) : Along step Q s as := by
  induction as generalizing s with
  | nil => trivial
  | cons a as ih =>
    obtain ⟨t, ht, hrest⟩ := run_cons.mp hrun
    exact (along_cons ht).mpr ⟨hQ s a t ht hs, ih hrest (hI s a t ht hs)⟩

/-- Under an invariant, two predicates that agree on every step agree along the run. -/
theorem along_congr {I : S → Prop} {P Q : S → A → Prop}
    (hI : ∀ s a t, step s a = some t → I s → I t) (hPQ : ∀ s a, I s → (P s a ↔ Q s a))
    {s : S} {as : List A} (hs : I s) : Along step P s as ↔ Along step Q s as := by
  induction as generalizing s with
  | nil => exact Iff.rfl
  | cons a as ih =>
    refine and_congr (hPQ s a hs) (forall₂_congr fun t ht => ?_)
    exact ih (hI s a t ht hs)

/-- A run that leaves `P` does so at some step, after which a state that every step
preserves is never left again. -/
theorem reaches_of_not_along {I T : S → Prop} {P : S → A → Prop}
    (hI : ∀ s a t, step s a = some t → I s → I t)
    (hbreak : ∀ s a t, step s a = some t → I s → ¬ P s a → T t)
    (hT : ∀ s a t, step s a = some t → T s → T t) {s u : S} {as : List A}
    (hrun : run step s as = some u) (hs : I s) (hP : ¬ Along step P s as) : T u := by
  induction as generalizing s with
  | nil => exact absurd trivial hP
  | cons a as ih =>
    obtain ⟨t, ht, hrest⟩ := run_cons.mp hrun
    by_cases ha : P s a
    · refine ih hrest (hI s a t ht hs) fun hPas => ?_
      exact hP ((along_cons ht).mpr ⟨ha, hPas⟩)
    · exact run_preserves hT hrest (hbreak s a t ht hs ha)

/-! ### Pools of threads -/

section Pool

variable {ι T M : Type*} [Fintype ι]

/-- The sum of what the threads hold. -/
def tally [AddCommMonoid M] (f : T → M) (pool : ι → T) : M := ∑ i, f (pool i)

/-- A pool of threads that hold nothing. -/
lemma tally_eq_zero [AddCommMonoid M] {f : T → M} {pool : ι → T} (h : ∀ i, f (pool i) = 0) :
    tally f pool = 0 :=
  Finset.sum_eq_zero fun i _ => h i

variable [DecidableEq ι]

/-- A thread that moves on gives back what it held and takes what it holds next. -/
lemma tally_update [AddCommMonoid M] (f : T → M) (pool : ι → T) (i : ι) (t : T) :
    tally f (Function.update pool i t) + f (pool i) = tally f pool + f t := by
  have hrest : ∑ j ∈ Finset.univ.erase i, f (Function.update pool i t j) =
      ∑ j ∈ Finset.univ.erase i, f (pool j) :=
    Finset.sum_congr rfl fun j hj => by rw [Function.update_of_ne (Finset.ne_of_mem_erase hj)]
  calc tally f (Function.update pool i t) + f (pool i)
      = f t + ∑ j ∈ Finset.univ.erase i, f (pool j) + f (pool i) := by
        rw [tally, ← Finset.add_sum_erase _ _ (Finset.mem_univ i), Function.update_self, hrest]
    _ = f (pool i) + ∑ j ∈ Finset.univ.erase i, f (pool j) + f t := by
        rw [add_right_comm, add_comm (f t), add_right_comm]
    _ = tally f pool + f t := by rw [tally, ← Finset.add_sum_erase _ _ (Finset.mem_univ i)]

/-- A thread that holds the same as before leaves the tally as it is. -/
lemma tally_update_same [AddCommMonoid M] {f : T → M} {pool : ι → T} {i : ι} {t : T}
    (h : f t = f (pool i)) : tally f (Function.update pool i t) = tally f pool := by
  refine Finset.sum_congr rfl fun j _ => ?_
  by_cases hj : j = i
  · subst hj
    rw [Function.update_self, h]
  · rw [Function.update_of_ne hj]

end Pool

end CrdbLab.Lib.Runs
