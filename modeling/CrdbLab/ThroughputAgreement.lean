import CrdbLab.RecordedTicks

/-!
Whether the recorded throughput of an interval is the one computed live.

The two sums leave out different lines: the live one a total that stands beside its parts, the
recorded one a throughput that is missing. They agree where what is left out adds nothing.
-/

namespace CrdbLab.ThroughputAgreement

open CrdbLab.Lib.Extended CrdbLab.Lib.Blocks CrdbLab.Lib.Fallible CrdbLab.Lib.KeySort
open CrdbLab.Workload CrdbLab.Ticks CrdbLab.RecordedTicks

/-- Intervals in the order of their offsets. -/
structure Stream where
  intervals : List Interval
  increasing : (intervals.map Interval.offset).Pairwise fun x y => Number.lt x y = true
  numbered : ∀ i ∈ intervals, i.offset ≠ .nan

/-- The measurements among the samples are those of the stream. -/
def Stream.Covers (stream : Stream) (samples : List Sample) : Prop :=
  periodic samples = stream.intervals.flatMap Interval.lines

/-- The throughput computed live for the interval at the offset. -/
def liveTotal (samples : List Sample) (offset : Number) : Option Number :=
  match groupTicks samples with
  | .ok live => (live.find? fun t => t.elapsedS = offset).map Tick.totalTps
  | .error _ => none

/-- The throughput the loader finds there. -/
def recordedTotal (rows : List Row) (offset : Number) : Option Number :=
  ((ticks rows).find? fun t => t.elapsedS = offset).map RecordedTick.totalTps

/-- Each interval has a total computed live, and where its rows are recorded their total is
the same number. -/
def Agree (stream : Stream) (samples : List Sample) (rows : List Row)
    (recorded : Interval → Prop) : Prop :=
  ∀ i ∈ stream.intervals, ∃ t, liveTotal samples i.offset = some t ∧
    (recorded i → t ≠ .nan ∧ recordedTotal rows i.offset = some t)

/-- Neighbouring offsets count as different. -/
def Stream.Separated (stream : Stream) : Prop :=
  (stream.intervals.map Interval.offset).IsChain fun x y => apart y x = true

/-- The lines that count are numbers with a sum, and the others add nothing to it. -/
structure Balanced (lines : List Sample) : Prop where
  number : .nan ∉ (counted lines).map Sample.tps
  oneSided : ¬ (.infinite true ∈ (counted lines).map Sample.tps ∧
    .infinite false ∈ (counted lines).map Sample.tps)
  nothing : (numbers ((leftOut lines).map Sample.tps)).sum = 0 ∨
    ∃ n, .infinite n ∈ (counted lines).map Sample.tps ∧
      .infinite (!n) ∉ (leftOut lines).map Sample.tps

/-! ### Sums -/

lemma infinite_mem_numbers {l : List Number} {n : Bool} :
    .infinite n ∈ numbers l ↔ .infinite n ∈ l := by
  simp [numbers]

lemma nan_not_mem_numbers {l : List Number} : .nan ∉ numbers l := by
  simp [numbers]

/-- A sum of numbers is neither infinite one way nor no number exactly when nothing in it is
infinite that way. -/
lemma sum_numbers_ne_iff (r : List Number) (n : Bool) :
    ((numbers r).sum ≠ .infinite n ∧ (numbers r).sum ≠ .nan) ↔ .infinite n ∉ r := by
  rw [Ne, Ne, Number.sum_eq_infinite_iff, Number.sum_eq_nan_iff]
  simp only [infinite_mem_numbers, nan_not_mem_numbers, not_false_eq_true, and_true, false_or]
  constructor
  · rintro ⟨hone, hboth⟩ hn
    have hother : Number.infinite (!n) ∈ r := not_not.mp fun h => hone ⟨hn, h⟩
    cases n
    · exact hboth ⟨hother, hn⟩
    · exact hboth ⟨hn, hother⟩
  · intro hn
    refine ⟨fun h => hn h.1, fun h => ?_⟩
    cases n
    · exact hn h.2
    · exact hn h.1

/-- Nothing is added to a sum that is a number: the rest is zero, or the sum is infinite and
the rest not infinite the other way. -/
lemma sum_add_numbers_iff (c r : List Number) :
    (c.sum ≠ .nan ∧ c.sum + (numbers r).sum = c.sum) ↔
      .nan ∉ c ∧ ¬ (.infinite true ∈ c ∧ .infinite false ∈ c) ∧
        ((numbers r).sum = 0 ∨ ∃ n, .infinite n ∈ c ∧ .infinite (!n) ∉ r) := by
  have hnumber : c.sum ≠ .nan ↔ .nan ∉ c ∧ ¬ (.infinite true ∈ c ∧ .infinite false ∈ c) := by
    rw [Ne, Number.sum_eq_nan_iff, not_or]
  rw [hnumber, and_assoc]
  refine and_congr_right fun hnan => and_congr_right fun hsided => ?_
  rw [Number.add_eq_left_iff (hnumber.mpr ⟨hnan, hsided⟩)]
  refine or_congr_right (exists_congr fun n => ?_)
  have honly : Number.infinite n ∈ c → Number.infinite (!n) ∉ c := by
    intro hn hother
    cases n
    · exact hsided ⟨hother, hn⟩
    · exact hsided ⟨hn, hother⟩
  rw [sum_numbers_ne_iff, Number.sum_eq_infinite_iff]
  exact and_congr_left fun _ => ⟨fun h => h.1, fun h => ⟨h, honly h, hnan⟩⟩

/-- The totals of one interval's lines. -/
lemma totals_agree_iff (lines : List Sample) :
    (((counted lines).map Sample.tps).sum ≠ .nan ∧
      (numbers (lines.map Sample.tps)).sum = ((counted lines).map Sample.tps).sum) ↔
        Balanced lines := by
  have hsum : (numbers (lines.map Sample.tps)).sum =
      (numbers ((counted lines).map Sample.tps)).sum +
        (numbers ((leftOut lines).map Sample.tps)).sum := by
    have hperm := (((counted_append_leftOut lines).map Sample.tps).filter (· ≠ Number.nan)).sum_eq
    rw [List.map_append, List.filter_append, List.sum_append] at hperm
    exact hperm.symm
  have hnumbers : Number.nan ∉ (counted lines).map Sample.tps →
      numbers ((counted lines).map Sample.tps) = (counted lines).map Sample.tps := by
    intro h
    refine List.filter_eq_self.mpr fun x hx => ?_
    have hne : x ≠ .nan := fun hn => h (hn ▸ hx)
    simpa using hne
  have hiff := sum_add_numbers_iff ((counted lines).map Sample.tps) ((leftOut lines).map Sample.tps)
  constructor
  · rintro ⟨hne, heq⟩
    have hnan : Number.nan ∉ (counted lines).map Sample.tps := fun hmem =>
      hne (Number.sum_eq_nan_iff.mpr (Or.inl hmem))
    rw [hsum, hnumbers hnan] at heq
    obtain ⟨h1, h2, h3⟩ := hiff.mp ⟨hne, heq⟩
    exact ⟨h1, h2, h3⟩
  · rintro ⟨h1, h2, h3⟩
    obtain ⟨hne, heq⟩ := hiff.mpr ⟨h1, h2, h3⟩
    refine ⟨hne, ?_⟩
    rw [hsum, hnumbers h1]
    exact heq

/-! ### Live -/

lemma find?_map_of_nodup {A B K : Type} [DecidableEq K] {f : A → B} {key : B → K} {l : List A}
    (h : (l.map fun a => key (f a)).Nodup) {a : A} (ha : a ∈ l) :
    (l.map f).find? (fun b => key b = key (f a)) = some (f a) := by
  induction l with
  | nil => simp at ha
  | cons b l ih =>
    rw [List.map_cons, List.nodup_cons] at h
    rw [List.map_cons]
    rcases List.mem_cons.mp ha with rfl | ha
    · exact List.find?_cons_of_pos (by simp)
    · have hne : key (f b) ≠ key (f a) := fun he =>
        h.1 (he ▸ List.mem_map_of_mem (f := fun a => key (f a)) ha)
      rw [List.find?_cons_of_neg (by simpa using hne)]
      exact ih h.2 ha

variable {stream : Stream} {samples : List Sample}

lemma Stream.nodup (stream : Stream) : (stream.intervals.map Interval.offset).Nodup :=
  stream.increasing.imp fun h => Number.ne_of_lt h

lemma groups_of_covers (h : stream.Covers samples) :
    groups samples =
      split Sample.elapsedS apart (flat (stream.intervals.map Interval.toBlock)) := by
  rw [groups_eq, h, flat, List.flatMap_map]
  rfl

lemma offsets_eq (intervals : List Interval) :
    (intervals.map Interval.toBlock).map Block.mark = intervals.map Interval.offset := by
  rw [List.map_map]
  rfl

/-- Separated intervals have a tick each. -/
lemma groupTicks_of_separated (h : stream.Covers samples) (hsep : stream.Separated) :
    groupTicks samples = .ok (stream.intervals.map Interval.tick) := by
  have hblocks : Separated apart (stream.intervals.map Interval.toBlock) := by
    rw [Separated, offsets_eq]
    exact hsep
  rw [groupTicks_eq, groups_of_covers h, split_flat apart_self hblocks, List.map_map, mapM_ok,
    List.forall₂_map_left_iff, List.forall₂_map_right_iff, List.forall₂_same]
  exact fun i _ => aggregateTick_interval i

lemma liveTotal_of_separated (h : stream.Covers samples) (hsep : stream.Separated) {i : Interval}
    (hi : i ∈ stream.intervals) :
    liveTotal samples i.offset = some ((counted i.lines).map Sample.tps).sum := by
  have hnodup : (stream.intervals.map fun i => i.tick.elapsedS).Nodup := stream.nodup
  have hfind : (stream.intervals.map Interval.tick).find? (fun t => t.elapsedS = i.offset) =
      some i.tick := find?_map_of_nodup hnodup hi
  unfold liveTotal
  rw [groupTicks_of_separated h hsep]
  show ((stream.intervals.map Interval.tick).find? fun t => t.elapsedS = i.offset).map
    Tick.totalTps = _
  rw [hfind]
  rfl

/-- Where each interval has a live total, the intervals are separated. -/
lemma separated_of_live (h : stream.Covers samples)
    (hlive : ∀ i ∈ stream.intervals, ∃ t, liveTotal samples i.offset = some t) :
    stream.Separated := by
  have hnodup : ((stream.intervals.map Interval.toBlock).map Block.mark).Nodup := by
    rw [offsets_eq]
    exact stream.nodup
  have hblocks : Separated apart (stream.intervals.map Interval.toBlock) := by
    refine separated_of_heads apart_self hnodup fun b hb => ?_
    obtain ⟨i, hi, rfl⟩ := List.mem_map.mp hb
    obtain ⟨t, ht⟩ := hlive i hi
    unfold liveTotal at ht
    cases hticks : groupTicks samples with
    | error e =>
      rw [hticks] at ht
      cases ht
    | ok live =>
      rw [hticks] at ht
      obtain ⟨tick, hfind, -⟩ := Option.map_eq_some_iff.mp ht
      have hoffset : tick.elapsedS = i.offset := by simpa using List.find?_some hfind
      rw [groupTicks_eq] at hticks
      -- the tick at the offset comes from a group that begins there
      obtain ⟨group, hgroup, htick⟩ := exists_of_mapM_ok hticks (List.mem_of_find?_eq_some hfind)
      refine ⟨group, groups_of_covers h ▸ hgroup, ?_⟩
      rw [aggregateTick_elapsed htick, hoffset]
      rfl
  rw [Separated, offsets_eq] at hblocks
  exact hblocks

/-! ### Recorded -/

lemma filter_lines {intervals : List Interval} (h : (intervals.map Interval.offset).Nodup)
    {i : Interval} (hi : i ∈ intervals) :
    (intervals.flatMap Interval.lines).filter (fun s => s.elapsedS = i.offset) = i.lines := by
  have hflat : intervals.flatMap Interval.lines = flat (intervals.map Interval.toBlock) := by
    rw [flat, List.flatMap_map]
    rfl
  rw [← offsets_eq] at h
  rw [hflat]
  exact filter_flat h (List.mem_map_of_mem hi)

section Rows

variable {rows : List Row} {concurrency repetition : ℤ} {intervals : List Interval}
variable (hconst : ∀ r ∈ rows, r.concurrency = concurrency ∧ r.repetition = repetition)

include hconst

lemma interval_of_const {r : Row} (hr : r ∈ rows) :
    r.interval = (concurrency, repetition, r.elapsedS) := by
  rw [Row.interval, (hconst r hr).1, (hconst r hr).2]

/-- The ticks have distinct offsets. -/
lemma nodup_offsets :
    ((sortOn intervalOrder ((rows.filter fun r => r.elapsedS ≠ .nan).map Row.interval).dedup).map
      fun k => (recordedTick rows k).elapsedS).Nodup := by
  have hkeys : ∀ k ∈ sortOn intervalOrder
      ((rows.filter fun r => r.elapsedS ≠ .nan).map Row.interval).dedup,
      k = (concurrency, repetition, k.2.2) := by
    intro k hk
    obtain ⟨r, hr, rfl⟩ := List.mem_map.mp (List.mem_dedup.mp ((mem_sortOn intervalOrder).mp hk))
    exact interval_of_const hconst (List.mem_filter.mp hr).1
  refine List.Nodup.map_on (fun k hk l hl hkl => ?_)
    ((sortOn_perm intervalOrder _).nodup_iff.mpr (List.nodup_dedup _))
  have hkl : k.2.2 = l.2.2 := hkl
  rw [hkeys k hk, hkeys l hl, hkl]

variable (hrows : rows.map (fun r => (r.elapsedS, r.tps)) =
  (intervals.flatMap Interval.lines).map fun s => (s.elapsedS, s.tps))

include hrows

/-- An interval whose lines are rows has a tick. -/
lemma key_mem {i : Interval} (hi : i ∈ intervals) (hnum : i.offset ≠ .nan) :
    (concurrency, repetition, i.offset) ∈
      sortOn intervalOrder ((rows.filter fun r => r.elapsedS ≠ .nan).map Row.interval).dedup := by
  obtain ⟨s, lines, hs⟩ := List.exists_cons_of_ne_nil i.nonempty
  have hs : s ∈ i.lines := by
    show s ∈ i.elements
    rw [hs]
    exact List.mem_cons_self
  have hmem : (s.elapsedS, s.tps) ∈ rows.map fun r => (r.elapsedS, r.tps) := by
    rw [hrows]
    exact List.mem_map.mpr ⟨s, List.mem_flatMap.mpr ⟨i, hi, hs⟩, rfl⟩
  obtain ⟨r, hr, hrs⟩ := List.mem_map.mp hmem
  have hoffset : r.elapsedS = i.offset := by
    rw [← i.elapsed s hs]
    exact congrArg Prod.fst hrs
  refine (mem_sortOn intervalOrder).mpr (List.mem_dedup.mpr (List.mem_map.mpr ⟨r, ?_, ?_⟩))
  · refine List.mem_filter.mpr ⟨hr, ?_⟩
    rw [hoffset]
    simpa using hnum
  · rw [interval_of_const hconst hr, hoffset]

/-- The rows of an interval carry the throughputs of its lines. -/
lemma tps_of_rows (hnodup : (intervals.map Interval.offset).Nodup) {i : Interval}
    (hi : i ∈ intervals) :
    (rows.filter fun r => r.interval = (concurrency, repetition, i.offset)).map Row.tps =
      i.lines.map Sample.tps := by
  have hcongr : rows.filter (fun r => r.interval = (concurrency, repetition, i.offset)) =
      rows.filter fun r => r.elapsedS = i.offset := by
    refine List.filter_congr fun r hr => ?_
    simp [interval_of_const hconst hr]
  have hpairs := congrArg (fun l => (l.filter fun p => p.1 = i.offset).map Prod.snd) hrows
  simp only [List.filter_map, List.map_map, Function.comp_def] at hpairs
  rw [hcongr, hpairs, filter_lines hnodup hi]

/-- The recorded total of an interval whose lines are rows. -/
lemma recordedTotal_of_rows (hnodup : (intervals.map Interval.offset).Nodup) {i : Interval}
    (hi : i ∈ intervals) (hnum : i.offset ≠ .nan) :
    recordedTotal rows i.offset = some (numbers (i.lines.map Sample.tps)).sum := by
  have hfind : (ticks rows).find? (fun t => t.elapsedS = i.offset) =
      some (recordedTick rows (concurrency, repetition, i.offset)) :=
    find?_map_of_nodup (nodup_offsets hconst) (key_mem hconst hrows hi hnum)
  unfold recordedTotal
  rw [hfind, Option.map_some, recordedTick, tps_of_rows hconst hrows hnodup hi]

end Rows

/-! ### The two writers -/

lemma chaosRows_pairs (chaos : Chaos) (h : stream.Covers samples) :
    (chaosRows chaos samples).map (fun r => (r.elapsedS, r.tps)) =
      (stream.intervals.flatMap Interval.lines).map fun s => (s.elapsedS, s.tps) := by
  rw [chaosRows, h, List.map_map]
  rfl

/-- The interval comes after the warm-up. -/
def Steady (tier : Tier) (i : Interval) : Prop :=
  Number.le i.offset (.finite tier.warmupS) = false

instance (tier : Tier) (i : Interval) : Decidable (Steady tier i) :=
  inferInstanceAs (Decidable (_ = false))

lemma tierRows_of_tier {tier : Tier} {arrivals : List (ℚ × Sample)} {r : Row}
    (hr : r ∈ tierRows tier arrivals) :
    r.concurrency = tier.concurrency ∧ r.repetition = tier.repetition := by
  unfold tierRows at hr
  split at hr
  · obtain ⟨timed, -, hr⟩ := List.mem_flatMap.mp hr
    unfold tickRows at hr
    split at hr
    · simp at hr
    · obtain ⟨p, -, rfl⟩ := List.mem_map.mp hr
      exact ⟨rfl, rfl⟩
  · simp at hr

/-- What a tick's rows hold of its interval. -/
lemma tickRows_pairs (tier : Tier) (arrived : ℚ) (i : Interval) :
    (tickRows tier (arrived, i.tick)).map (fun r => (r.elapsedS, r.tps)) =
      if Steady tier i then i.lines.map fun s => (s.elapsedS, s.tps) else [] := by
  have hoffset : i.tick.elapsedS = i.offset := rfl
  unfold tickRows
  by_cases hi : Steady tier i
  · have hle : Number.le i.offset (.finite tier.warmupS) = false := hi
    rw [if_pos hi, hoffset, hle, if_neg Bool.false_ne_true, List.map_map, Interval.tick,
      List.map_map]
    refine List.map_congr_left fun s hs => ?_
    simp only [Function.comp_apply, sampleRow, i.elapsed s hs]
  · have hle : Number.le i.offset (.finite tier.warmupS) = true := by
      simpa [Steady] using hi
    rw [if_neg hi, hoffset, hle]
    rfl

lemma tierRows_pairs {arrivals : List (ℚ × Sample)} (tier : Tier)
    (h : stream.Covers (arrivals.map Prod.snd)) (hsep : stream.Separated) :
    (tierRows tier arrivals).map (fun r => (r.elapsedS, r.tps)) =
      ((stream.intervals.filter fun i => Steady tier i).flatMap Interval.lines).map
        fun s => (s.elapsedS, s.tps) := by
  have hticks := groupTimedTicks_ticks arrivals
  rw [groupTicks_of_separated h hsep] at hticks
  unfold tierRows
  cases htimed : groupTimedTicks arrivals with
  | error e =>
    rw [htimed] at hticks
    cases hticks
  | ok timed =>
    rw [htimed] at hticks
    have hmap : timed.map Prod.snd = stream.intervals.map Interval.tick := by
      simpa [Except.map] using hticks
    show (timed.flatMap (tickRows tier)).map (fun r => (r.elapsedS, r.tps)) = _
    clear htimed hticks
    generalize stream.intervals = intervals at hmap
    induction intervals generalizing timed with
    | nil =>
      obtain rfl := List.map_eq_nil_iff.mp hmap
      rfl
    | cons i intervals ih =>
      obtain ⟨⟨arrived, tick⟩, rest, rfl⟩ := List.exists_cons_of_ne_nil
        (show timed ≠ [] by rintro rfl; simp at hmap)
      obtain ⟨rfl, hrest⟩ : tick = i.tick ∧ rest.map Prod.snd = intervals.map Interval.tick := by
        simpa using hmap
      rw [List.flatMap_cons, List.map_append, tickRows_pairs, ih rest hrest]
      by_cases hi : Steady tier i
      · rw [if_pos hi, List.filter_cons_of_pos (by simpa using hi), List.flatMap_cons,
          List.map_append]
      · rw [if_neg hi, List.filter_cons_of_neg (by simpa using hi), List.nil_append]

/-- Rows that give each recorded interval the sum of its numbers. -/
lemma agree_iff_of {rows : List Row} {recorded : Interval → Prop} (h : stream.Covers samples)
    (hrows : stream.Separated → ∀ i ∈ stream.intervals, recorded i →
      recordedTotal rows i.offset = some (numbers (i.lines.map Sample.tps)).sum) :
    Agree stream samples rows recorded ↔
      stream.Separated ∧ ∀ i ∈ stream.intervals, recorded i → Balanced i.lines := by
  constructor
  · intro hagree
    have hsep : stream.Separated := separated_of_live h fun i hi => by
      obtain ⟨t, ht, -⟩ := hagree i hi
      exact ⟨t, ht⟩
    refine ⟨hsep, fun i hi hrec => ?_⟩
    obtain ⟨t, ht, hrecorded⟩ := hagree i hi
    obtain ⟨hne, htotal⟩ := hrecorded hrec
    rw [liveTotal_of_separated h hsep hi] at ht
    cases ht
    rw [hrows hsep i hi hrec] at htotal
    exact (totals_agree_iff i.lines).mp ⟨hne, Option.some.inj htotal⟩
  · rintro ⟨hsep, hbalanced⟩ i hi
    refine ⟨_, liveTotal_of_separated h hsep hi, fun hrec => ?_⟩
    obtain ⟨hne, htotal⟩ := (totals_agree_iff i.lines).mpr (hbalanced i hi hrec)
    exact ⟨hne, by rw [hrows hsep i hi hrec, htotal]⟩

/-- **When the recorded throughput is the live one**, for the rows of a tier and for those of
a chaos run: the offsets are told apart, and in each recorded interval what either sum leaves
out adds nothing. -/
theorem agree_iff {arrivals : List (ℚ × Sample)} (h : stream.Covers (arrivals.map Prod.snd))
    (tier : Tier) (chaos : Chaos) :
    (Agree stream (arrivals.map Prod.snd) (tierRows tier arrivals) (Steady tier) ↔
      stream.Separated ∧ ∀ i ∈ stream.intervals, Steady tier i → Balanced i.lines) ∧
    (Agree stream (arrivals.map Prod.snd) (chaosRows chaos (arrivals.map Prod.snd))
        (fun _ => True) ↔
      stream.Separated ∧ ∀ i ∈ stream.intervals, Balanced i.lines) := by
  constructor
  · refine agree_iff_of h fun hsep i hi hsteady => ?_
    have hconst : ∀ r ∈ tierRows tier arrivals,
        r.concurrency = tier.concurrency ∧ r.repetition = tier.repetition :=
      fun r hr => tierRows_of_tier hr
    refine recordedTotal_of_rows hconst (tierRows_pairs tier h hsep) ?_ ?_ (stream.numbered i hi)
    · exact stream.nodup.sublist (List.filter_sublist.map Interval.offset)
    · exact List.mem_filter.mpr ⟨hi, by simpa using hsteady⟩
  · have hconst : ∀ r ∈ chaosRows chaos (arrivals.map Prod.snd),
        r.concurrency = chaos.concurrency ∧ r.repetition = 1 := by
      intro r hr
      obtain ⟨s, -, rfl⟩ := List.mem_map.mp hr
      exact ⟨rfl, rfl⟩
    have htotals : ∀ i ∈ stream.intervals, recordedTotal (chaosRows chaos (arrivals.map Prod.snd))
        i.offset = some (numbers (i.lines.map Sample.tps)).sum := fun i hi =>
      recordedTotal_of_rows hconst (chaosRows_pairs chaos h) stream.nodup hi (stream.numbered i hi)
    rw [agree_iff_of h fun _ i hi _ => htotals i hi]
    simp

/-! ### A stream whose totals agree, and one whose totals do not -/

def lineOf (op : String) (tps : ℚ) : Sample where
  kind := .periodic
  elapsedS := .finite 1
  op := op
  errorsCum := 0
  values := Finmap.singleton "tps" (.finite tps)

def operations : List Sample := [lineOf "read" 100, lineOf "update" 50]

def withTotal : List Sample := operations ++ [lineOf "total" 150]

/-- One interval of such lines. -/
def intervalOf (lines : List Sample) (hne : lines ≠ []) (hkind : ∀ s ∈ lines, s.kind = .periodic)
    (hsame : ∀ s ∈ lines, s.elapsedS = .finite 1) (hops : (lines.map Sample.op).Nodup) :
    Interval :=
  ⟨⟨.finite 1, lines, hne, hsame⟩, hkind, hops⟩

def streamOf (i : Interval) (hi : i.offset ≠ .nan) : Stream :=
  ⟨[i], List.pairwise_singleton _ _, fun j hj => by rw [List.mem_singleton.mp hj]; exact hi⟩

def operationsStream : Stream :=
  streamOf (intervalOf operations (by simp [operations]) (by simp [operations, lineOf])
    (by simp [operations, lineOf]) (by decide)) (by decide)

def withTotalStream : Stream :=
  streamOf (intervalOf withTotal (by simp [withTotal]) (by simp [withTotal, operations, lineOf])
    (by simp [withTotal, operations, lineOf]) (by decide)) (by decide)

def sampleTier : Tier := ⟨100, 0, 8, 1⟩

def sampleChaos : Chaos := ⟨8, fun _ => none⟩

def arrivalsOf (samples : List Sample) : List (ℚ × Sample) := samples.map fun s => (107, s)

/-- Lines of operations alone. -/
theorem operations_agree :
    Agree operationsStream ((arrivalsOf operations).map Prod.snd)
      (tierRows sampleTier (arrivalsOf operations)) (Steady sampleTier) ∧
    Agree operationsStream ((arrivalsOf operations).map Prod.snd)
      (chaosRows sampleChaos ((arrivalsOf operations).map Prod.snd)) (fun _ => True) := by
  have hcovers : operationsStream.Covers ((arrivalsOf operations).map Prod.snd) := rfl
  have hsep : operationsStream.Separated := List.isChain_singleton _
  have hbalanced : ∀ i ∈ operationsStream.intervals, Balanced i.lines := by
    intro i hi
    obtain rfl := List.mem_singleton.mp hi
    exact ⟨by decide +kernel, by decide +kernel, Or.inl (by decide +kernel)⟩
  obtain ⟨htier, hchaos⟩ := agree_iff hcovers sampleTier sampleChaos
  exact ⟨htier.mpr ⟨hsep, fun i hi _ => hbalanced i hi⟩, hchaos.mpr ⟨hsep, hbalanced⟩⟩

/-- A line that is their total is counted again when the rows are read. -/
theorem withTotal_disagree :
    liveTotal ((arrivalsOf withTotal).map Prod.snd) (.finite 1) = some (.finite 150) ∧
    recordedTotal (tierRows sampleTier (arrivalsOf withTotal)) (.finite 1) = some (.finite 300) ∧
    recordedTotal (chaosRows sampleChaos ((arrivalsOf withTotal).map Prod.snd)) (.finite 1) =
      some (.finite 300) ∧
    withTotalStream.Covers ((arrivalsOf withTotal).map Prod.snd) ∧
    ¬ Agree withTotalStream ((arrivalsOf withTotal).map Prod.snd)
      (tierRows sampleTier (arrivalsOf withTotal)) (Steady sampleTier) ∧
    ¬ Agree withTotalStream ((arrivalsOf withTotal).map Prod.snd)
      (chaosRows sampleChaos ((arrivalsOf withTotal).map Prod.snd)) (fun _ => True) := by
  have hlive : liveTotal ((arrivalsOf withTotal).map Prod.snd) (.finite 1) =
      some (.finite 150) := by decide +kernel
  have htier : recordedTotal (tierRows sampleTier (arrivalsOf withTotal)) (.finite 1) =
      some (.finite 300) := by decide +kernel
  have hchaos : recordedTotal (chaosRows sampleChaos ((arrivalsOf withTotal).map Prod.snd))
      (.finite 1) = some (.finite 300) := by decide +kernel
  have hno : ∀ rows recorded, (∀ i ∈ withTotalStream.intervals, recorded i) →
      recordedTotal rows (.finite 1) = some (.finite 300) →
        ¬ Agree withTotalStream ((arrivalsOf withTotal).map Prod.snd) rows recorded := by
    intro rows recorded hall htotal hagree
    obtain ⟨t, ht, hrec⟩ := hagree _ List.mem_cons_self
    obtain ⟨-, hsame⟩ := hrec (hall _ List.mem_cons_self)
    have ht : liveTotal ((arrivalsOf withTotal).map Prod.snd) (.finite 1) = some t := ht
    have hsame : recordedTotal rows (.finite 1) = some t := hsame
    rw [hlive] at ht
    rw [htotal, ← ht] at hsame
    exact absurd hsame (by decide +kernel)
  refine ⟨hlive, htier, hchaos, rfl, hno _ _ (fun i hi => ?_) htier, hno _ _ ?_ hchaos⟩
  · obtain rfl := List.mem_singleton.mp hi
    rfl
  · exact fun _ _ => trivial

end CrdbLab.ThroughputAgreement
