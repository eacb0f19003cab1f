import CrdbLab.Ticks

/-!
Grouping a stream of samples.

The grouper compares a sample with the one before it, the aggregator with the first of its group.
The two agree on a stream as long as no stretch of close neighbours drifts away from its first
sample.
-/

namespace CrdbLab.TickGroups

open CrdbLab.Lib.Extended CrdbLab.Lib.Blocks CrdbLab.Workload CrdbLab.Ticks

/-! ### What the aggregator accepts -/

lemma setOp_ne_nil (byOp : ByOp) (s : Sample) : setOp byOp s ≠ [] := by
  unfold setOp
  split
  · next h =>
    intro hnil
    rw [List.map_eq_nil_iff.mp hnil] at h
    simp at h
  · simp

lemma foldl_setOp_ne_nil (samples : List Sample) {byOp : ByOp} (h : byOp ≠ []) :
    samples.foldl setOp byOp ≠ [] := by
  induction samples generalizing byOp with
  | nil => exact h
  | cons s samples ih => exact ih (setOp_ne_nil byOp s)

/-- A dictionary with an operation has totals. -/
lemma exists_totals {byOp : ByOp} (h : byOp ≠ []) : ∃ t, totals byOp = some t := by
  obtain ⟨p, rest, rfl⟩ := List.exists_cons_of_ne_nil h
  simp only [totals]
  split
  · exact ⟨_, rfl⟩
  · exact ⟨_, rfl⟩

theorem aggregateTick_ok_iff (first : Sample) (run : List Sample) :
    (∃ tick, aggregateTick (first :: run) = .ok tick) ↔
      first.kind = .periodic ∧
        ∀ s ∈ run, s.kind = .periodic ∧ apart s.elapsedS first.elapsedS = false := by
  unfold aggregateTick
  rw [gather]
  by_cases hfirst : first.kind = .periodic
  · rw [if_neg (by simpa using hfirst)]
    constructor
    · rintro ⟨tick, h⟩
      cases hg : gather (some first.elapsedS) (setOp [] first) run with
      | error e =>
        rw [hg] at h
        cases h
      | ok r => exact ⟨hfirst, (gather_ok.mp hg).1⟩
    · rintro ⟨-, hrun⟩
      rw [gather_ok.mpr ⟨hrun, rfl⟩]
      obtain ⟨t, ht⟩ := exists_totals (foldl_setOp_ne_nil run (setOp_ne_nil [] first))
      exact ⟨⟨first.elapsedS, t.1, t.2, run.foldl setOp (setOp [] first)⟩, by simp only [ht]⟩
  · rw [if_pos hfirst]
    simp [hfirst]

/-! ### The stream -/

/-- The groups and the ticks of a stream. -/
structure Faithful (arrivals : List (ℚ × Sample)) : Prop where
  whole : (groupedPairs arrivals).flatten = arrivals.filter fun p => p.2.kind = .periodic
  nonempty : ∀ group ∈ groupedPairs arrivals, group ≠ []
  accepted : ∀ group ∈ groupedPairs arrivals,
    ∃ tick, aggregateTick (group.map Prod.snd) = .ok tick
  timed : ∃ timed, groupTimedTicks arrivals = .ok timed ∧
    groupTicks (arrivals.map Prod.snd) = .ok (timed.map Prod.snd) ∧
    List.Forall₂ (fun group at_ => group.head?.map Prod.fst = some at_) (groupedPairs arrivals)
      (timed.map Prod.fst) ∧
    ((arrivals.map Prod.fst).Pairwise (· ≤ ·) → (timed.map Prod.fst).Pairwise (· ≤ ·))

/-- A stretch of measurements that begins where the offset changes, and whose neighbours have
offsets that count as the same, keeps the offset of its first. -/
def Steady (samples : List Sample) : Prop :=
  ∀ before first run after, periodic samples = before ++ first :: run ++ after →
    Opens Sample.elapsedS apart before first → Unbroken Sample.elapsedS apart (first :: run) →
    ∀ s ∈ run, apart s.elapsedS first.elapsedS = false

lemma kind_of_mem_groups {samples group : List Sample} (h : group ∈ groups samples) :
    ∀ s ∈ group, s.kind = .periodic := by
  intro s hs
  have hmem : s ∈ periodic samples := by
    rw [groups_eq] at h
    rw [← flatten_split (periodic samples)]
    exact List.mem_flatten.mpr ⟨group, h, hs⟩
  simpa using (List.mem_filter.mp hmem).2

/-- **Steady streams** are those whose every group has a tick. -/
theorem steady_iff (samples : List Sample) :
    Steady samples ↔ ∀ group ∈ groups samples, ∃ tick, aggregateTick group = .ok tick := by
  have hsplit := @forall_split_iff _ _ Sample.elapsedS apart (periodic samples)
    (fun a b => apart b.elapsedS a.elapsedS = false) fun a => apart_self a.elapsedS
  rw [Steady, ← hsplit, ← groups_eq]
  refine forall₂_congr fun group hgroup => ?_
  have hne : group ≠ [] := ne_nil_of_mem_split (groups_eq samples ▸ hgroup)
  obtain ⟨first, run, rfl⟩ := List.exists_cons_of_ne_nil hne
  have hkind := kind_of_mem_groups hgroup
  rw [aggregateTick_ok_iff]
  constructor
  · intro h
    refine ⟨hkind first (by simp), fun s hs => ?_⟩
    have hmem : s ∈ first :: run := List.mem_cons_of_mem first hs
    exact ⟨hkind s hmem, h first rfl s hmem⟩
  · rintro ⟨-, hrun⟩ a ha s hs
    obtain rfl : first = a := Option.some.inj ha
    rcases List.mem_cons.mp hs with rfl | hs
    · exact apart_self s.elapsedS
    · exact (hrun s hs).2

lemma accepted_iff {A : Type} (arrivals : List (A × Sample)) :
    (∀ group ∈ groupedPairs arrivals, ∃ tick, aggregateTick (group.map Prod.snd) = .ok tick) ↔
      Steady (arrivals.map Prod.snd) := by
  rw [steady_iff, ← groupedPairs_snd, List.forall_mem_map]

/-- When every group has a tick, both streams of ticks are there. -/
lemma timed_of_accepted {arrivals : List (ℚ × Sample)}
    (h : ∀ group ∈ groupedPairs arrivals, ∃ tick, aggregateTick (group.map Prod.snd) = .ok tick) :
    ∃ timed, groupTimedTicks arrivals = .ok timed := by
  have hall : ∀ gs : List (List (ℚ × Sample)), (∀ g ∈ gs, g ∈ groupedPairs arrivals) →
      ∃ timed : List (ℚ × Tick), List.Forall₂ (fun group p =>
        aggregateTick (group.map Prod.snd) = .ok p.2 ∧
          group.head?.map Prod.fst = some p.1) gs timed := by
    intro gs
    induction gs with
    | nil => exact fun _ => ⟨[], .nil⟩
    | cons g gs ih =>
      intro hmem
      obtain ⟨timed, htimed⟩ := ih fun g' hg' => hmem g' (List.mem_cons_of_mem g hg')
      obtain ⟨tick, htick⟩ := h g (hmem g (by simp))
      obtain ⟨p, l, rfl⟩ := List.exists_cons_of_ne_nil
        (ne_nil_of_mem_groupedPairs (hmem g (by simp)))
      exact ⟨(p.1, tick) :: timed, .cons ⟨htick, rfl⟩ htimed⟩
  obtain ⟨timed, htimed⟩ := hall (groupedPairs arrivals) fun _ hg => hg
  exact ⟨timed, groupTimedTicks_ok.mpr htimed⟩

/-- **Grouping** loses and refuses nothing exactly on steady streams. -/
theorem faithful_iff_steady (arrivals : List (ℚ × Sample)) :
    Faithful arrivals ↔ Steady (arrivals.map Prod.snd) := by
  rw [← accepted_iff]
  constructor
  · exact Faithful.accepted
  · intro h
    obtain ⟨timed, htimed⟩ := timed_of_accepted h
    have hticks := groupTimedTicks_ticks arrivals
    rw [htimed] at hticks
    refine ⟨flatten_groupedPairs arrivals, fun _ => ne_nil_of_mem_groupedPairs, h,
      timed, htimed, hticks.symm, ?_, timed_ordered htimed⟩
    rw [List.forall₂_map_right_iff]
    exact (groupTimedTicks_ok.mp htimed).imp fun _ _ hp => hp.2

/-- Reads at an offset of so many tenths of a nanosecond. -/
def readAt (tenths : ℚ) : Sample where
  kind := .periodic
  elapsedS := .finite (tenths / 10 ^ 10)
  op := "read"
  errorsCum := 0
  values := (∅ : Values).insert "tps" (.finite 100)

/-- Two steps of nine tenths of the tolerance are one group, and no tick. -/
theorem drifting_refused : ¬ Faithful [(0, readAt 0), (0, readAt 9), (0, readAt 18)] := by
  intro h
  have hsteady := (accepted_iff _).mp h.accepted
  have hunbroken : Unbroken Sample.elapsedS apart [readAt 0, readAt 9, readAt 18] := by
    unfold Unbroken
    decide +kernel
  have hlast := hsteady [] (readAt 0) [readAt 9, readAt 18] [] rfl (by simp [Opens]) hunbroken
    (readAt 18) (by simp)
  revert hlast
  decide +kernel

end CrdbLab.TickGroups
