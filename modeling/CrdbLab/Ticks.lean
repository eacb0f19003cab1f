import CrdbLab.Workload
import CrdbLab.Lib.Blocks
import CrdbLab.Lib.Fallible

/-!
Ticks: the samples of one interval folded into one.

A stream of samples is split where the elapsed offset changes. A line that is a total by its
label counts only when no line of an operation stands beside it.
-/

namespace CrdbLab.Ticks

open CrdbLab.Lib.Extended CrdbLab.Lib.Blocks CrdbLab.Lib.Fallible CrdbLab.Workload

inductive AggregateError | summarySample | differentOffsets | noSamples
  deriving DecidableEq, Repr

def AggregateError.message : AggregateError → String
  | .summarySample => "refusing to aggregate a cumulative summary sample"
  | .differentOffsets => "samples do not share an elapsed offset"
  | .noSamples => "no samples to aggregate"

/-- A dictionary by operation, in the order of first insertion. -/
abbrev ByOp := List (String × Sample)

structure Tick where
  elapsedS : Number
  totalTps : Number
  errorsCum : ℤ
  byOp : ByOp
  deriving DecidableEq

/-- `by_op[sample.op] = sample`. -/
def setOp (byOp : ByOp) (s : Sample) : ByOp :=
  if s.op ∈ byOp.map Prod.fst then byOp.map fun p => if p.1 = s.op then (s.op, s) else p
  else byOp ++ [(s.op, s)]

/-- Offsets that count as different. -/
def apart (x y : Number) : Bool := Number.lt (.finite (1 / 10 ^ 9)) (Number.abs (x - y))

/-- The loop over the samples: the offset of the first and the dictionary. -/
def gather : Option Number → ByOp → List Sample → Except AggregateError (Option Number × ByOp)
  | elapsed, byOp, [] => .ok (elapsed, byOp)
  | elapsed, byOp, s :: rest =>
    if s.kind ≠ .periodic then .error .summarySample
    else
      match elapsed with
      | none => gather (some s.elapsedS) (setOp byOp s) rest
      | some e =>
        if apart s.elapsedS e then .error .differentOffsets
        else gather (some e) (setOp byOp s) rest

/-- A label of a line that is a total already. -/
def IsTotal (op : String) : Prop := op = "total" ∨ op = "all"

instance (op : String) : Decidable (IsTotal op) := inferInstanceAs (Decidable (_ ∨ _))

def components (byOp : ByOp) : ByOp := byOp.filter fun p => ¬ IsTotal p.1

/-- The total throughput and the errors of the dictionary's samples. -/
def totals (byOp : ByOp) : Option (Number × ℤ) :=
  let parts := components byOp
  if parts ≠ [] then
    some ((parts.map fun p => p.2.tps).sum, ((parts.map fun p => p.2.errorsCum).max?).getD 0)
  else byOp.head?.map fun only => (only.2.tps, only.2.errorsCum)

def aggregateTick (samples : List Sample) : Except AggregateError Tick :=
  match gather none [] samples with
  | .error e => .error e
  | .ok (none, _) => .error .noSamples
  | .ok (some elapsed, byOp) =>
    match totals byOp with
    | none => .error .noSamples
    | some (totalTps, errorsCum) => .ok ⟨elapsed, totalTps, errorsCum, byOp⟩

section Grouping

variable {A : Type}

/-- Goes on with the pairs gathered and the offset last seen. -/
def groupedFrom (buffer : List (A × Sample)) (current : Option Number) :
    List (A × Sample) → List (List (A × Sample))
  | [] => if buffer = [] then [] else [buffer]
  | (arrived, s) :: rest =>
    if s.kind ≠ .periodic then groupedFrom buffer current rest
    else if current.any (apart s.elapsedS) then
      buffer :: groupedFrom [(arrived, s)] (some s.elapsedS) rest
    else groupedFrom (buffer ++ [(arrived, s)]) (some s.elapsedS) rest

def groupedPairs (arrivals : List (A × Sample)) : List (List (A × Sample)) :=
  groupedFrom [] none arrivals

end Grouping

/-- The ticks of the groups in turn, up to the first that is refused. -/
def groupTicks (samples : List Sample) : Except AggregateError (List Tick) :=
  (groupedPairs (samples.map fun s => ((), s))).mapM fun group => aggregateTick (group.map Prod.snd)

/-- Each tick with the arrival of its first line. -/
def groupTimedTicks (arrivals : List (ℚ × Sample)) : Except AggregateError (List (ℚ × Tick)) :=
  (groupedPairs arrivals).mapM fun group => do
    let tick ← aggregateTick (group.map Prod.snd)
    return ((group.head?.map Prod.fst).getD 0, tick)

/-! ### Groups -/

lemma apart_self (x : Number) : apart x x = false := Number.lt_abs_sub_self (by norm_num) x

/-- The measurements among the samples. -/
def periodic (samples : List Sample) : List Sample := samples.filter fun s => s.kind = .periodic

/-- The samples of each group. -/
def groups (samples : List Sample) : List (List Sample) :=
  (groupedPairs (samples.map fun s => ((), s))).map fun group => group.map Prod.snd

/-- The arrivals of measurements. -/
def periodicPairs {A : Type} (arrivals : List (A × Sample)) : List (A × Sample) :=
  arrivals.filter fun p => p.2.kind = .periodic

lemma map_periodicPairs {A : Type} (arrivals : List (A × Sample)) :
    (periodicPairs arrivals).map Prod.snd = periodic (arrivals.map Prod.snd) := by
  rw [periodicPairs, periodic, List.filter_map]
  rfl

lemma periodicPairs_cons {A : Type} (p : A × Sample) (arrivals : List (A × Sample)) :
    periodicPairs (p :: arrivals) =
      if p.2.kind = .periodic then p :: periodicPairs arrivals else periodicPairs arrivals := by
  rw [periodicPairs, List.filter_cons]
  simp only [decide_eq_true_eq, periodicPairs]

lemma groupedFrom_eq {A : Type} (arrivals : List (A × Sample)) {buffer : List (A × Sample)}
    (hb : buffer ≠ []) (last : Number) :
    groupedFrom buffer (some last) arrivals =
      splitFrom (fun p => p.2.elapsedS) apart buffer last (periodicPairs arrivals) := by
  induction arrivals generalizing buffer last with
  | nil => simp [groupedFrom, hb, periodicPairs, splitFrom]
  | cons p arrivals ih =>
    obtain ⟨arrived, s⟩ := p
    rw [groupedFrom]
    by_cases hs : s.kind = .periodic
    · rw [if_neg (by simpa using hs), periodicPairs_cons, if_pos hs, splitFrom]
      simp only [Option.any_some]
      split
      · rw [ih (by simp)]
      · rw [ih (by simp)]
    · rw [if_pos hs, periodicPairs_cons, if_neg hs]
      exact ih hb last

/-- **The groups of arrivals** are the measurements, split where the offset changes. -/
lemma groupedPairs_eq {A : Type} (arrivals : List (A × Sample)) :
    groupedPairs arrivals = split (fun p => p.2.elapsedS) apart (periodicPairs arrivals) := by
  unfold groupedPairs
  induction arrivals with
  | nil => rfl
  | cons p arrivals ih =>
    obtain ⟨arrived, s⟩ := p
    rw [groupedFrom]
    by_cases hs : s.kind = .periodic
    · rw [if_neg (by simpa using hs), periodicPairs_cons, if_pos hs, split]
      exact groupedFrom_eq arrivals (by simp) s.elapsedS
    · rw [if_pos hs, periodicPairs_cons, if_neg hs]
      exact ih

lemma map_groupedPairs {A : Type} (arrivals : List (A × Sample)) :
    (groupedPairs arrivals).map (fun group => group.map Prod.snd) =
      split Sample.elapsedS apart (periodic (arrivals.map Prod.snd)) := by
  rw [groupedPairs_eq, ← map_periodicPairs, split_map]
  rfl

/-- **The groups** are the measurements, split where the offset changes. -/
lemma groups_eq (samples : List Sample) :
    groups samples = split Sample.elapsedS apart (periodic samples) := by
  rw [groups, map_groupedPairs]
  simp [Function.comp_def]

/-- When a line arrived does not matter to the grouping. -/
lemma groupedPairs_snd {A : Type} (arrivals : List (A × Sample)) :
    (groupedPairs arrivals).map (fun group => group.map Prod.snd) =
      groups (arrivals.map Prod.snd) := by
  rw [map_groupedPairs, groups_eq]

/-- The groups lose and repeat nothing. -/
lemma flatten_groupedPairs {A : Type} (arrivals : List (A × Sample)) :
    (groupedPairs arrivals).flatten = periodicPairs arrivals := by
  rw [groupedPairs_eq, flatten_split]

lemma ne_nil_of_mem_groupedPairs {A : Type} {arrivals group : List (A × Sample)}
    (h : group ∈ groupedPairs arrivals) : group ≠ [] := by
  rw [groupedPairs_eq] at h
  exact ne_nil_of_mem_split h

lemma groupTicks_eq (samples : List Sample) :
    groupTicks samples = (groups samples).mapM aggregateTick := by
  rw [groupTicks, groups, List.mapM_map]
  rfl

/-- Timing the ticks does not change them. -/
theorem groupTimedTicks_ticks (arrivals : List (ℚ × Sample)) :
    (groupTimedTicks arrivals).map (fun timed => timed.map Prod.snd) =
      groupTicks (arrivals.map Prod.snd) := by
  rw [groupTicks_eq, ← groupedPairs_snd, List.mapM_map, groupTimedTicks]
  generalize groupedPairs arrivals = gs
  induction gs with
  | nil => rfl
  | cons g gs ih =>
    rw [List.mapM_cons, List.mapM_cons, Function.comp_apply, ← ih]
    cases aggregateTick (g.map Prod.snd) with
    | error e => rfl
    | ok tick =>
      simp only [bind, Except.bind, pure, Except.pure]
      split <;> rename_i h <;> simp [h, Except.map]

lemma forall₂_iff_of_mem {A B : Type} {R S : A → B → Prop} {l : List A} {r : List B}
    (h : ∀ a ∈ l, ∀ b, R a b ↔ S a b) : List.Forall₂ R l r ↔ List.Forall₂ S l r := by
  induction l generalizing r with
  | nil => rw [List.forall₂_nil_left_iff, List.forall₂_nil_left_iff]
  | cons a l ih =>
    have ih' : ∀ r, List.Forall₂ R l r ↔ List.Forall₂ S l r := fun r =>
      ih fun b hb => h b (List.mem_cons_of_mem a hb)
    simp only [List.forall₂_cons_left_iff, h a List.mem_cons_self, ih']

/-- A timed tick is that of its group, at the arrival of the first line. -/
lemma groupTimedTicks_ok {arrivals : List (ℚ × Sample)} {timed : List (ℚ × Tick)} :
    groupTimedTicks arrivals = .ok timed ↔
      List.Forall₂ (fun group p => aggregateTick (group.map Prod.snd) = .ok p.2 ∧
        group.head?.map Prod.fst = some p.1) (groupedPairs arrivals) timed := by
  rw [groupTimedTicks, mapM_ok]
  have hpoint : ∀ group ∈ groupedPairs arrivals, ∀ p : ℚ × Tick,
      (do
        let tick ← aggregateTick (group.map Prod.snd)
        return ((group.head?.map Prod.fst).getD 0, tick)) = Except.ok p ↔
      aggregateTick (group.map Prod.snd) = .ok p.2 ∧ group.head?.map Prod.fst = some p.1 := by
    rintro group hgroup ⟨at_, tick⟩
    obtain ⟨q, l, rfl⟩ := List.exists_cons_of_ne_nil (ne_nil_of_mem_groupedPairs hgroup)
    cases aggregateTick ((q :: l).map Prod.snd) with
    | error e => simp [bind, Except.bind]
    | ok t => simp [bind, Except.bind, pure, Except.pure, and_comm]
  exact forall₂_iff_of_mem hpoint

lemma timed_heads {arrivals : List (ℚ × Sample)} {timed : List (ℚ × Tick)}
    (h : groupTimedTicks arrivals = .ok timed) :
    (timed.map Prod.fst).map some =
      (groupedPairs arrivals).map fun group => group.head?.map Prod.fst := by
  have hall := groupTimedTicks_ok.mp h
  clear h
  generalize groupedPairs arrivals = gs at hall
  induction hall with
  | nil => rfl
  | cons hp _ ih => rw [List.map_cons, List.map_cons, ih, List.map_cons, hp.2]

/-- A tick arrives with a line. -/
lemma exists_arrival {arrivals : List (ℚ × Sample)} {timed : List (ℚ × Tick)}
    (h : groupTimedTicks arrivals = .ok timed) {p : ℚ × Tick} (hp : p ∈ timed) :
    ∃ q ∈ arrivals, q.1 = p.1 := by
  have hhead : some p.1 ∈ (timed.map Prod.fst).map some :=
    List.mem_map_of_mem (List.mem_map_of_mem hp)
  rw [timed_heads h] at hhead
  obtain ⟨group, hgroup, hfst⟩ := List.mem_map.mp hhead
  obtain ⟨q, hq, hqp⟩ := Option.map_eq_some_iff.mp hfst
  have hmem : q ∈ (groupedPairs arrivals).flatten :=
    List.mem_flatten.mpr ⟨group, hgroup, List.mem_of_mem_head? hq⟩
  rw [flatten_groupedPairs] at hmem
  exact ⟨q, List.mem_of_mem_filter hmem, hqp⟩

/-- **The ticks arrive in order** when the lines do. -/
lemma timed_ordered {arrivals : List (ℚ × Sample)} {timed : List (ℚ × Tick)}
    (h : groupTimedTicks arrivals = .ok timed)
    (hordered : (arrivals.map Prod.fst).Pairwise (· ≤ ·)) :
    (timed.map Prod.fst).Pairwise (· ≤ ·) := by
  have hflat : ((groupedPairs arrivals).flatten.map Prod.fst).Pairwise (· ≤ ·) := by
    rw [flatten_groupedPairs]
    exact hordered.sublist (List.filter_sublist.map Prod.fst)
  rw [List.pairwise_map, List.pairwise_flatten] at hflat
  -- the heads of two groups are lines of the stream in the order of the groups
  have hsome : ((timed.map Prod.fst).map some).Pairwise
      fun x y => ∀ a ∈ x, ∀ b ∈ y, a ≤ b := by
    rw [timed_heads h, List.pairwise_map]
    refine hflat.2.imp_of_mem fun {g g'} hg hg' hle => ?_
    obtain ⟨p, l, rfl⟩ := List.exists_cons_of_ne_nil (ne_nil_of_mem_groupedPairs hg)
    obtain ⟨q, l', rfl⟩ := List.exists_cons_of_ne_nil (ne_nil_of_mem_groupedPairs hg')
    simpa using hle p (by simp) q (by simp)
  rw [List.pairwise_map] at hsome
  exact hsome.imp fun hle => hle _ rfl _ rfl

/-! ### The tick of an interval -/

/-- The samples of one interval, at most one for each operation. -/
structure Interval extends Block Sample.elapsedS where
  measured : ∀ s ∈ elements, s.kind = .periodic
  distinct : (elements.map Sample.op).Nodup

def Interval.offset (i : Interval) : Number := i.mark

def Interval.lines (i : Interval) : List Sample := i.elements

lemma Interval.elapsed (i : Interval) : ∀ s ∈ i.lines, s.elapsedS = i.offset := i.same

/-- The lines whose throughput the tick sums. -/
def counted (lines : List Sample) : List Sample :=
  if lines.filter (fun s => ¬ IsTotal s.op) ≠ [] then lines.filter fun s => ¬ IsTotal s.op
  else lines.take 1

/-- The lines it leaves out. -/
def leftOut (lines : List Sample) : List Sample :=
  if lines.filter (fun s => ¬ IsTotal s.op) ≠ [] then lines.filter fun s => IsTotal s.op
  else lines.drop 1

lemma counted_append_leftOut (lines : List Sample) :
    (counted lines ++ leftOut lines).Perm lines := by
  unfold counted leftOut
  split
  · have := List.filter_append_perm (fun s : Sample => decide (¬ IsTotal s.op)) lines
    simpa using this
  · rw [List.take_append_drop]

lemma gather_distinct {o : Number} {lines : List Sample} (hkind : ∀ s ∈ lines, s.kind = .periodic)
    (ho : ∀ s ∈ lines, s.elapsedS = o) {byOp : ByOp}
    (hops : (byOp.map Prod.fst ++ lines.map Sample.op).Nodup) :
    gather (some o) byOp lines = .ok (some o, byOp ++ lines.map fun s => (s.op, s)) := by
  induction lines generalizing byOp with
  | nil => simp [gather]
  | cons s lines ih =>
    have hnew : s.op ∉ byOp.map Prod.fst := by
      intro hmem
      exact List.disjoint_of_nodup_append hops hmem (by simp)
    rw [gather, if_neg (by simpa using hkind s (by simp))]
    simp only [ho s (by simp), apart_self, Bool.false_eq_true, if_false]
    rw [setOp, if_neg hnew, ih (fun r hr => hkind r (List.mem_cons_of_mem s hr))
      (fun r hr => ho r (List.mem_cons_of_mem s hr))]
    · simp
    · simpa using hops

lemma gather_interval (i : Interval) :
    gather none [] i.lines = .ok (some i.offset, i.lines.map fun s => (s.op, s)) := by
  obtain ⟨⟨o, lines, hne, ho⟩, hkind, hops⟩ := i
  obtain ⟨s, rest, rfl⟩ := List.exists_cons_of_ne_nil hne
  show gather none [] (s :: rest) = .ok (some o, (s :: rest).map fun s => (s.op, s))
  have hs : s.elapsedS = o := ho s (by simp)
  rw [gather, if_neg (by simpa using hkind s (by simp)), hs]
  have hrest : ((setOp [] s).map Prod.fst ++ rest.map Sample.op).Nodup := by
    simpa [setOp] using hops
  show gather (some o) (setOp [] s) rest = _
  rw [gather_distinct (fun r hr => hkind r (List.mem_cons_of_mem s hr))
    (fun r hr => ho r (List.mem_cons_of_mem s hr)) hrest]
  rfl

/-- The tick of an interval sums the lines that count. -/
def Interval.tick (i : Interval) : Tick where
  elapsedS := i.offset
  totalTps := ((counted i.lines).map Sample.tps).sum
  errorsCum := ((totals (i.lines.map fun s => (s.op, s))).map Prod.snd).getD 0
  byOp := i.lines.map fun s => (s.op, s)

lemma totals_lines {lines : List Sample} (hne : lines ≠ []) :
    ∃ errorsCum, totals (lines.map fun s => (s.op, s)) =
      some (((counted lines).map Sample.tps).sum, errorsCum) := by
  have hparts : components (lines.map fun s => (s.op, s)) =
      (lines.filter fun s => ¬ IsTotal s.op).map fun s => (s.op, s) := by
    simp [components, List.filter_map, Function.comp_def]
  unfold totals counted
  rw [hparts]
  by_cases hops : lines.filter (fun s => ¬ IsTotal s.op) ≠ []
  · have hmap : (lines.filter fun s => ¬ IsTotal s.op).map (fun s => (s.op, s)) ≠ [] :=
      fun h => hops (List.map_eq_nil_iff.mp h)
    rw [if_pos hmap, if_pos hops, List.map_map]
    exact ⟨_, rfl⟩
  · obtain ⟨s, rest, rfl⟩ := List.exists_cons_of_ne_nil hne
    rw [not_not.mp hops]
    exact ⟨s.errorsCum, by simp⟩

/-- **An interval's samples** are never refused. -/
theorem aggregateTick_interval (i : Interval) : aggregateTick i.lines = .ok i.tick := by
  have hne : i.lines ≠ [] := i.nonempty
  obtain ⟨errorsCum, htotals⟩ := totals_lines hne
  simp only [aggregateTick, gather_interval, Interval.tick, htotals, Option.map_some,
    Option.getD_some]

/-- What the loop accepts, and the dictionary it ends with. -/
lemma gather_ok {e : Number} {samples : List Sample} {byOp : ByOp} {r : Option Number × ByOp} :
    gather (some e) byOp samples = .ok r ↔
      (∀ s ∈ samples, s.kind = .periodic ∧ apart s.elapsedS e = false) ∧
        r = (some e, samples.foldl setOp byOp) := by
  induction samples generalizing byOp with
  | nil =>
    rw [gather, Except.ok.injEq]
    exact ⟨fun h => ⟨by simp, h.symm⟩, fun h => h.2.symm⟩
  | cons s samples ih =>
    rw [gather, List.foldl_cons, List.forall_mem_cons]
    by_cases hs : s.kind = .periodic
    · rw [if_neg (by simpa using hs)]
      cases hap : apart s.elapsedS e
      · simp [ih, hs]
      · simp
    · simp [hs]

/-- A tick has the offset of its first sample. -/
lemma aggregateTick_elapsed {samples : List Sample} {t : Tick}
    (h : aggregateTick samples = .ok t) :
    samples.head?.map Sample.elapsedS = some t.elapsedS := by
  cases samples with
  | nil =>
    unfold aggregateTick at h
    simp [gather] at h
  | cons s samples =>
    unfold aggregateTick at h
    rw [gather] at h
    split at h
    · cases h
    · cases h
    · next e byOp hg =>
      split at hg
      · cases hg
      · have he := congrArg Prod.fst (gather_ok.mp hg).2
        split at h
        · cases h
        · cases h
          exact he.symm

end CrdbLab.Ticks
