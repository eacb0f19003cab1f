import Mathlib.Init
import Mathlib.Tactic.Use

/-!
Computations on a state that return or raise, and what can be said about them.

What a computation did to the state before it raised stays done. `outcome` gives the end of
a computation with the state it leaves, construct by construct. A triple says what holds
where a computation returns and what holds where it raises, from what held before. Of a log of
what was done, an entry is open as long as no later one closes it.
-/

namespace CrdbLab.Lib.Effects

/-- A computation over the state `S` that may raise an `E`. -/
abbrev Comp (S E A : Type) := ExceptT E (StateM S) A

variable {S E A B : Type}

/-- How the computation ends from a state. -/
def outcome (m : Comp S E A) (s : S) : Except E A × S := m.run.run s

/-- The statement for each entry of the list in turn. -/
def forEach (f : A → Comp S E Unit) : List A → Comp S E Unit
  | [] => pure ()
  | a :: l => do
    f a
    forEach f l

/-- `try: m except: h`, where `h` decides what it catches by raising the rest again. -/
def except (m : Comp S E A) (h : E → Comp S E A) : Comp S E A := tryCatch m h

/-- `try: m finally: f`. -/
def lastly (m : Comp S E A) (f : Comp S E Unit) : Comp S E A := do
  let a ← except m fun e => do
    f
    throw e
  f
  pure a

/-- The value of a call, or what it raised. -/
def raising : Except E A → Comp S E A
  | .ok a => pure a
  | .error e => throw e

/-! ### Outcomes -/

@[simp] lemma outcome_raising (x : Except E A) (s : S) :
    outcome (raising x : Comp S E A) s = (x, s) := by
  cases x <;> rfl

@[simp] lemma outcome_pure (a : A) (s : S) : outcome (pure a : Comp S E A) s = (.ok a, s) := rfl

@[simp] lemma outcome_throw (e : E) (s : S) :
    outcome (throw e : Comp S E A) s = (.error e, s) := rfl

@[simp] lemma outcome_modify (f : S → S) (s : S) :
    outcome (modify f : Comp S E Unit) s = (.ok (), f s) := rfl

@[simp] lemma outcome_get (s : S) : outcome (get : Comp S E S) s = (.ok s, s) := rfl

lemma outcome_bind (m : Comp S E A) (f : A → Comp S E B) (s : S) :
    outcome (m >>= f) s =
      match outcome m s with
      | (.ok a, t) => outcome (f a) t
      | (.error e, t) => (.error e, t) := by
  show ExceptT.bindCont f (m s).1 (m s).2 = match m s with
    | (.ok a, t) => f a t
    | (.error e, t) => (.error e, t)
  rcases m s with ⟨a | e, t⟩ <;> rfl

lemma outcome_except (m : Comp S E A) (h : E → Comp S E A) (s : S) :
    outcome (except m h) s =
      match outcome m s with
      | (.ok a, t) => (.ok a, t)
      | (.error e, t) => outcome (h e) t := by
  have hcatch : ∀ p : Except E A × S, (match p.1 with
      | .ok a => (pure (.ok a) : StateM S (Except E A))
      | .error e => h e) p.2 = match p with
      | (.ok a, t) => (.ok a, t)
      | (.error e, t) => h e t := by
    rintro ⟨a | e, t⟩ <;> rfl
  exact hcatch (m s)

lemma outcome_bind_ok {m : Comp S E A} {f : A → Comp S E B} {s t : S} {a : A}
    (h : outcome m s = (.ok a, t)) : outcome (m >>= f) s = outcome (f a) t := by
  rw [outcome_bind, h]

lemma outcome_bind_error {m : Comp S E A} {f : A → Comp S E B} {s t : S} {e : E}
    (h : outcome m s = (.error e, t)) : outcome (m >>= f) s = (.error e, t) := by
  rw [outcome_bind, h]

@[simp] lemma outcome_modify_bind (g : S → S) (f : Unit → Comp S E B) (s : S) :
    outcome ((modify g : Comp S E Unit) >>= f) s = outcome (f ()) (g s) := rfl

@[simp] lemma outcome_get_bind (f : S → Comp S E B) (s : S) :
    outcome ((get : Comp S E S) >>= f) s = outcome (f s) s := rfl

/-! ### Triples -/

/-- From a state with `P` the computation returns with `Q` or raises with `R`. -/
def Triple (P : S → Prop) (m : Comp S E A) (Q : A → S → Prop) (R : E → S → Prop) : Prop :=
  ∀ s, P s →
    match outcome m s with
    | (.ok a, t) => Q a t
    | (.error e, t) => R e t

namespace Triple

variable {P P' : S → Prop} {Q Q' : A → S → Prop} {R R' : E → S → Prop} {m : Comp S E A}

lemma of_return (h : Triple P m Q R) {s t : S} {a : A} (hs : P s)
    (ho : outcome m s = (.ok a, t)) : Q a t := by
  have := h s hs
  rwa [ho] at this

lemma of_raise (h : Triple P m Q R) {s t : S} {e : E} (hs : P s)
    (ho : outcome m s = (.error e, t)) : R e t := by
  have := h s hs
  rwa [ho] at this

lemma conseq (h : Triple P m Q R) (hP : ∀ s, P' s → P s) (hQ : ∀ a t, Q a t → Q' a t)
    (hR : ∀ e t, R e t → R' e t) : Triple P' m Q' R' := by
  intro s hs
  rcases ho : outcome m s with ⟨e | a, t⟩
  · exact hR e t (h.of_raise (hP s hs) ho)
  · exact hQ a t (h.of_return (hP s hs) ho)

lemma pre (h : Triple P m Q R) (hP : ∀ s, P' s → P s) : Triple P' m Q R :=
  h.conseq hP (fun _ _ hq => hq) fun _ _ hr => hr

lemma post (h : Triple P m Q R) (hQ : ∀ a t, Q a t → Q' a t) : Triple P m Q' R :=
  h.conseq (fun _ hp => hp) hQ fun _ _ hr => hr

lemma pure {a : A} (h : ∀ s, P s → Q a s) : Triple P (Pure.pure a : Comp S E A) Q R :=
  fun s hs => h s hs

lemma throw {e : E} (h : ∀ s, P s → R e s) : Triple P (throw e : Comp S E A) Q R :=
  fun s hs => h s hs

lemma modify {Q : Unit → S → Prop} {f : S → S} (h : ∀ s, P s → Q () (f s)) :
    Triple P (modify f : Comp S E Unit) Q R :=
  fun s hs => h s hs

lemma bind {f : A → Comp S E B} {Q' : B → S → Prop} (hm : Triple P m Q R)
    (hf : ∀ a, Triple (Q a) (f a) Q' R) : Triple P (m >>= f) Q' R := by
  intro s hs
  rw [outcome_bind]
  rcases ho : outcome m s with ⟨e | a, t⟩
  · exact hm.of_raise hs ho
  · exact hf a t (hm.of_return hs ho)

/-- The state may be looked at before the statement is chosen. -/
lemma get_bind {f : S → Comp S E B} {Q' : B → S → Prop}
    (h : ∀ s, P s → Triple (· = s) (f s) Q' R) : Triple P (get >>= f) Q' R := by
  intro s hs
  rw [outcome_get_bind]
  exact h s hs s rfl

lemma except {h : E → Comp S E A} (hm : Triple P m Q R') (hh : ∀ e, Triple (R' e) (h e) Q R) :
    Triple P (Effects.except m h) Q R := by
  intro s hs
  rw [outcome_except]
  rcases ho : outcome m s with ⟨e | a, t⟩
  · exact hh e t (hm.of_raise hs ho)
  · exact hm.of_return hs ho

/-- The last part runs whether the first one returns or raises. -/
lemma lastly {f : Comp S E Unit} {T : A → S → Prop} {T' : E → S → Prop} (hm : Triple P m Q R')
    (hret : ∀ a, Triple (Q a) f (fun _ => T a) R)
    (hraise : ∀ e, Triple (R' e) f (fun _ => T' e) R) (hT : ∀ e t, T' e t → R e t) :
    Triple P (Effects.lastly m f) T R := by
  have hcaught : ∀ e, Triple (R' e) (f >>= fun _ => (MonadExcept.throw e : Comp S E A)) Q R :=
    fun e => bind (hraise e) fun _ => throw fun s hs => hT e s hs
  refine bind (except hm hcaught) fun a => bind (hret a) fun _ => ?_
  exact pure fun _ hs => hs

lemma ite {m' : Comp S E A} {c : Prop} [Decidable c] (h : c → Triple P m Q R)
    (h' : ¬ c → Triple P m' Q R) : Triple P (if c then m else m') Q R := by
  split
  · exact h ‹_›
  · exact h' ‹_›

/-- What each statement of a loop keeps, the loop keeps. -/
lemma forEach {f : A → Comp S E Unit} {l : List A}
    (h : ∀ a ∈ l, Triple P (f a) (fun _ => P) R) :
    Triple P (Effects.forEach f l) (fun _ => P) R := by
  induction l with
  | nil => exact pure fun _ hs => hs
  | cons a l ih =>
    refine bind (h a (by simp)) fun _ => ih fun b hb => ?_
    exact h b (List.mem_cons_of_mem a hb)

end Triple

/-! ### Loops and what ends them -/

/-- A loop whose statements all return does to the state what they do in turn. -/
lemma outcome_forEach_map {f : A → Comp S E Unit} {t : B → A} {g : S → B → S} {I : S → Prop}
    {l : List B} (h : ∀ b ∈ l, ∀ s, I s → outcome (f (t b)) s = (.ok (), g s b) ∧ I (g s b))
    {s : S} (hs : I s) : outcome (forEach f (l.map t)) s = (.ok (), l.foldl g s) := by
  induction l generalizing s with
  | nil => rfl
  | cons b l ih =>
    obtain ⟨hb, hnext⟩ := h b List.mem_cons_self s hs
    rw [List.map_cons, forEach, outcome_bind_ok hb,
      ih (fun c hc => h c (List.mem_cons_of_mem b hc)) hnext, List.foldl_cons]

section Loop

variable {f : A → Comp S E Unit} {I : List A → S → Prop} {bad : List A → A → Prop}

lemma forEach_cases_from
    (h : ∀ pre a s, I pre s →
      (¬ bad pre a ∧ ∃ t, outcome (f a) s = (.ok (), t) ∧ I (pre ++ [a]) t) ∨
      (bad pre a ∧ ∃ e t, outcome (f a) s = (.error e, t)))
    (l : List A) : ∀ pre s, I pre s →
      ((∀ i a, l[i]? = some a → ¬ bad (pre ++ l.take i) a) ∧
        ∃ t, outcome (forEach f l) s = (.ok (), t) ∧ I (pre ++ l) t) ∨
      ((∃ i a, l[i]? = some a ∧ bad (pre ++ l.take i) a) ∧
        ∃ e t, outcome (forEach f l) s = (.error e, t)) := by
  induction l with
  | nil =>
    intro pre s hs
    exact Or.inl ⟨by simp, s, rfl, by simpa using hs⟩
  | cons a l ih =>
    intro pre s hs
    rcases h pre a s hs with ⟨hgood, t, ht, hI⟩ | ⟨hbad, e, t, ht⟩
    · rw [forEach, outcome_bind_ok ht]
      rcases ih (pre ++ [a]) t hI with ⟨hall, u, hu, hIu⟩ | ⟨⟨i, b, hb, hbad⟩, hu⟩
      · refine Or.inl ⟨fun i b hb => ?_, u, hu, by simpa using hIu⟩
        cases i with
        | zero =>
          obtain rfl : a = b := by simpa using hb
          simpa using hgood
        | succ i => simpa using hall i b (by simpa using hb)
      · exact Or.inr ⟨⟨i + 1, b, by simpa using hb, by simpa using hbad⟩, hu⟩
    · rw [forEach, outcome_bind_error ht]
      exact Or.inr ⟨⟨0, a, rfl, by simpa using hbad⟩, e, t, rfl⟩

/-- **A loop** returns with what its statements establish, unless an entry is one that
raises after the entries before it. -/
theorem forEach_cases
    (h : ∀ pre a s, I pre s →
      (¬ bad pre a ∧ ∃ t, outcome (f a) s = (.ok (), t) ∧ I (pre ++ [a]) t) ∨
      (bad pre a ∧ ∃ e t, outcome (f a) s = (.error e, t)))
    {s : S} (hs : I [] s) (l : List A) :
    ((∀ i a, l[i]? = some a → ¬ bad (l.take i) a) ∧
      ∃ t, outcome (forEach f l) s = (.ok (), t) ∧ I l t) ∨
    ((∃ i a, l[i]? = some a ∧ bad (l.take i) a) ∧
      ∃ e t, outcome (forEach f l) s = (.error e, t)) := by
  simpa using forEach_cases_from h l [] s hs

end Loop

/-! ### What a log leaves open -/

section Log

variable {A : Type} {closes : A → Prop} {log : List A} {a b : A}

/-- The entry is in the log and nothing after it closes it. -/
def Open (closes : A → Prop) (log : List A) (a : A) : Prop :=
  ∃ pre post, log = pre ++ a :: post ∧ ∀ b ∈ post, ¬ closes b

@[simp] lemma not_open_nil : ¬ Open closes [] a := by
  rintro ⟨pre, post, hlog, -⟩
  simp at hlog

/-- What the next entry leaves open. -/
lemma open_snoc : Open closes (log ++ [b]) a ↔ b = a ∨ Open closes log a ∧ ¬ closes b := by
  constructor
  · rintro ⟨pre, post, hlog, hpost⟩
    rcases List.eq_nil_or_concat post with rfl | ⟨post, c, rfl⟩
    · obtain ⟨-, hb⟩ := List.append_inj' hlog rfl
      exact Or.inl (by simpa using hb)
    · have hsplit : log ++ [b] = (pre ++ a :: post) ++ [c] := by simpa using hlog
      obtain ⟨hpre, hbc⟩ := List.append_inj' hsplit rfl
      obtain rfl : b = c := by simpa using hbc
      exact Or.inr ⟨⟨pre, post, hpre, fun d hd => hpost d (by simp [hd])⟩, hpost b (by simp)⟩
  · rintro (rfl | ⟨⟨pre, post, rfl, hpost⟩, hb⟩)
    · exact ⟨log, [], rfl, by simp⟩
    · refine ⟨pre, post ++ [b], by simp, fun d hd => ?_⟩
      rcases List.mem_append.mp hd with hd | hd
      · exact hpost d hd
      · obtain rfl : d = b := by simpa using hd
        exact hb

end Log

end CrdbLab.Lib.Effects
