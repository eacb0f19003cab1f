import CrdbLab.ProbeDispatch
import CrdbLab.Lib.Consecutive
import Mathlib.Data.Rat.Floor

/-!
The cadence of the dispatcher.

A run is watched by a log: what the clock last read, which ticks were counted and when, and
which writes were dispatched. The clock never goes back, a wait returns no earlier than its
deadline, and everything else, the workers' part included, is left open.
-/

namespace CrdbLab.ProbeCadence

open CrdbLab.Lib.Runs CrdbLab.Lib.Consecutive CrdbLab.ProbeDispatch

/-- A tick that was counted. It was found at one reading of the clock and reached at a later
one, or the same, after which it was counted. -/
structure CountedTick where
  index : ℤ
  foundAt : ℚ
  reachedAt : ℚ
  deriving DecidableEq, Repr

/-- A write that was put on the queue, with the median latency its spacing was tested by. -/
structure Dispatched where
  dispatchedAt : ℚ
  medianLatency : Option ℚ
  deriving DecidableEq, Repr

structure Log where
  clock : ℚ
  foundAt : ℚ := 0
  tested : Option ℚ := none
  counted : List CountedTick := []
  dispatches : List Dispatched := []
  deriving DecidableEq, Repr

variable (probe : Probe)

def deadlineOf (tick : ℤ) : ℚ := probe.epochMonotonic + tick * probe.intervalS

/-- The tick is found later than one interval after its deadline. -/
def Behind (s : State probe.workers) (now : ℚ) : Prop :=
  deadlineOf probe s.tick + probe.intervalS < now

instance (s : State probe.workers) (now : ℚ) : Decidable (Behind probe s now) :=
  inferInstanceAs (Decidable (_ < _))

/-- What the log notes of a step. -/
def observe (s : State probe.workers) (log : Log) : Action probe.workers → Log
  | .setStop => log
  | .worker _ _ => log
  | .dispatcher r =>
    match s.dispatcher with
    | .deadline =>
      { log with clock := if Behind probe s r.now then r.later else r.now, foundAt := r.now }
    | .waiting => { log with clock := r.now }
    | .counting =>
      { log with clock := r.now, counted := log.counted ++ [⟨s.tick, log.foundAt, log.clock⟩] }
    | .testing _ => { log with tested := s.medianLatency }
    | .putting job =>
      if s.queue.length < probe.workers then
        { log with dispatches := log.dispatches ++ [⟨job.dispatched, log.tested⟩] }
      else log
    | _ => log

/-- The clock never goes back, and a wait that is not interrupted ends at its deadline or
after. -/
def Timely (p : State probe.workers × Log) : Action probe.workers → Prop
  | .setStop => True
  | .worker _ _ => True
  | .dispatcher r =>
    match p.1.dispatcher with
    | .deadline => p.2.clock ≤ r.now ∧ r.now ≤ r.later
    | .waiting =>
      (r.signaled && p.1.stop) = true ∨ p.2.clock ≤ r.now ∧ deadlineOf probe p.1.tick ≤ r.now
    | .counting => p.2.clock ≤ r.now
    | _ => True

instance (p : State probe.workers × Log) : (a : Action probe.workers) → Decidable (Timely probe p a)
  | .setStop => .isTrue trivial
  | .worker _ _ => .isTrue trivial
  | .dispatcher r =>
    match h : p.1.dispatcher with
    | .deadline => decidable_of_iff (p.2.clock ≤ r.now ∧ r.now ≤ r.later) (by simp [Timely, h])
    | .waiting =>
      decidable_of_iff ((r.signaled && p.1.stop) = true ∨
        p.2.clock ≤ r.now ∧ deadlineOf probe p.1.tick ≤ r.now) (by simp [Timely, h])
    | .counting => decidable_of_iff (p.2.clock ≤ r.now) (by simp [Timely, h])
    | .looping | .testing _ | .spacedOut | .acquiring _ | .saturated | .holding _ | .putting _
    | .full | .releasing | .returned => .isTrue (by simp [Timely, h])

/-- A step with what the log notes of it. -/
def watched (p : State probe.workers × Log) (a : Action probe.workers) :
    Option (State probe.workers × Log) :=
  (step probe p.1 a).map fun t => (t, observe probe p.1 p.2 a)

/-- The threads have been started, and the clock reads `clock`. -/
def start (clock : ℚ) : State probe.workers × Log := (init probe.workers, { clock := clock })

/-- What holds of the ticks and the dispatches of a run that began when the clock read
`first`. -/
structure Cadence (first : ℚ) (s : State probe.workers) (log : Log) : Prop where
  ticks : s.ticks = log.counted.length
  increasing : log.counted.Pairwise fun c c' => c.index < c'.index
  due : ∀ c ∈ log.counted, deadlineOf probe c.index ≤ c.reachedAt
  punctual : ∀ c ∈ log.counted, c.foundAt ≤ deadlineOf probe c.index + probe.intervalS
  rate : ∀ t, first ≤ t → ((log.counted.filter fun c => c.reachedAt ≤ t).length : ℤ) ≤
    ⌊(t - probe.epochMonotonic) / probe.intervalS⌋
  apart : ∀ p ∈ consecutive log.dispatches,
    probe.intervalS ≤ p.2.dispatchedAt - p.1.dispatchedAt
  spaced : ∀ p ∈ consecutive log.dispatches, ∀ latency, p.2.medianLatency = some latency →
    max probe.intervalS (latency / probe.workers) ≤ p.2.dispatchedAt - p.1.dispatchedAt

/-! ### The invariant -/

/-- The current tick is not decided yet. -/
def undecided : Dispatcher → Bool
  | .deadline | .waiting | .counting => true
  | _ => false

/-- When the write that is being dispatched was allowed. -/
def allowed : Dispatcher → Option ℚ
  | .acquiring now | .holding now => some now
  | .putting job => some job.dispatched
  | _ => none

/-- What a run keeps. -/
structure Paced (s : State probe.workers) (log : Log) : Prop where
  ticks : s.ticks = log.counted.length
  tick : if undecided s.dispatcher then 1 ≤ s.tick else 0 ≤ s.tick
  positive : ∀ c ∈ log.counted, 1 ≤ c.index
  below : ∀ c ∈ log.counted,
    if undecided s.dispatcher then c.index < s.tick else c.index ≤ s.tick
  increasing : log.counted.Pairwise fun c c' => c.index < c'.index
  due : ∀ c ∈ log.counted, deadlineOf probe c.index ≤ c.reachedAt
  punctual : ∀ c ∈ log.counted, c.foundAt ≤ deadlineOf probe c.index + probe.intervalS
  found : s.dispatcher = .waiting ∨ s.dispatcher = .counting →
    log.foundAt ≤ deadlineOf probe s.tick + probe.intervalS
  reached : s.dispatcher = .counting → deadlineOf probe s.tick ≤ log.clock
  last : ∀ x ∈ log.dispatches.getLast?, x.dispatchedAt = s.lastDispatch
  allowed : ∀ now, allowed s.dispatcher = some now →
    spacing probe log.tested ≤ now - s.lastDispatch
  spaced : ∀ p ∈ consecutive log.dispatches,
    spacing probe p.2.medianLatency ≤ p.2.dispatchedAt - p.1.dispatchedAt

lemma paced_start (clock : ℚ) : Paced probe (start probe clock).1 (start probe clock).2 where
  ticks := rfl
  tick := le_refl _
  positive := by simp [start]
  below := by simp [start]
  increasing := List.Pairwise.nil
  due := by simp [start]
  punctual := by simp [start]
  found := by simp [start, init]
  reached := by simp [start, init]
  last := by simp [start]
  allowed := by simp [start, init, ProbeCadence.allowed]
  spaced := by simp [start]

variable {probe}

/-- A step that leaves the dispatcher where it is. -/
lemma Paced.of_same {s t : State probe.workers} {log : Log} (h : Paced probe s log)
    (hdispatcher : t.dispatcher = s.dispatcher) (htick : t.tick = s.tick)
    (hticks : t.ticks = s.ticks) (hlast : t.lastDispatch = s.lastDispatch) :
    Paced probe t log := by
  cases s
  cases t
  simp only at hdispatcher htick hticks hlast
  subst hdispatcher htick hticks hlast
  exact ⟨h.ticks, h.tick, h.positive, h.below, h.increasing, h.due, h.punctual, h.found, h.reached,
    h.last, h.allowed, h.spaced⟩

/-- A worker does not touch what the dispatcher paces itself by, but for the latency. -/
lemma paced_worker {s : State probe.workers} {log : Log} (h : Paced probe s log)
    (i : Fin probe.workers) (r : Reading) : Paced probe (workerEffect probe s i r) log := by
  have hsame : (workerEffect probe s i r).dispatcher = s.dispatcher ∧
      (workerEffect probe s i r).tick = s.tick ∧ (workerEffect probe s i r).ticks = s.ticks ∧
      (workerEffect probe s i r).lastDispatch = s.lastDispatch := by
    unfold workerEffect noteLatency
    repeat' split
    all_goals exact ⟨rfl, rfl, rfl, rfl⟩
  exact h.of_same hsame.1 hsame.2.1 hsame.2.2.1 hsame.2.2.2

/-- Skipping forward passes over at least one tick. -/
lemma tick_lt_truncate {s : State probe.workers} {now later : ℚ} (htick : 1 ≤ s.tick)
    (hbehind : Behind probe s now) (hlater : now ≤ later) :
    s.tick < truncate ((later - probe.epochMonotonic) / probe.intervalS) := by
  have hpos := probe.interval_pos
  have hq : ((s.tick + 1 : ℤ) : ℚ) ≤ (later - probe.epochMonotonic) / probe.intervalS := by
    rw [le_div_iff₀ hpos]
    unfold Behind deadlineOf at hbehind
    push_cast
    linarith
  have hzero : (0 : ℚ) ≤ (later - probe.epochMonotonic) / probe.intervalS := by
    have htick' : (0 : ℚ) ≤ ((s.tick + 1 : ℤ) : ℚ) := by exact_mod_cast (by omega : 0 ≤ s.tick + 1)
    exact htick'.trans hq
  rw [truncate, if_pos hzero]
  exact Int.lt_of_add_one_le (Int.le_floor.mpr hq)

/-- A step to another place in the loop that counts and dispatches nothing, and leaves the
tick. -/
lemma Paced.move {s : State probe.workers} {log log' : Log} (h : Paced probe s log)
    {d : Dispatcher} (hcounted : log'.counted = log.counted)
    (hdispatches : log'.dispatches = log.dispatches)
    (hundecided : undecided d = true → undecided s.dispatcher = true)
    (hfound : d = .waiting ∨ d = .counting →
      log'.foundAt ≤ deadlineOf probe s.tick + probe.intervalS)
    (hreached : d = .counting → deadlineOf probe s.tick ≤ log'.clock)
    (hallowed : ∀ now, ProbeCadence.allowed d = some now →
      spacing probe log'.tested ≤ now - s.lastDispatch) :
    Paced probe { s with dispatcher := d } log' := by
  have htick := h.tick
  have hbelow := h.below
  obtain ⟨clock, foundAt, tested, counted, dispatches⟩ := log'
  simp only at hcounted hdispatches hfound hreached hallowed
  subst hcounted hdispatches
  refine ⟨h.ticks, ?_, h.positive, ?_, h.increasing, h.due, h.punctual, hfound, hreached, h.last,
    hallowed, h.spaced⟩
  · simp only
    split_ifs at htick ⊢ <;> first | omega | exact absurd (hundecided ‹_›) ‹_›
  · intro c hc
    have hc := hbelow c hc
    simp only
    split_ifs at hc ⊢ <;> first | omega | exact absurd (hundecided ‹_›) ‹_›

/-- A step to a place where no tick is considered. -/
lemma Paced.rest {s : State probe.workers} {log log' : Log} (h : Paced probe s log)
    {d : Dispatcher} (hcounted : log'.counted = log.counted)
    (hdispatches : log'.dispatches = log.dispatches) (hd : undecided d = false)
    (hallowed : ∀ now, ProbeCadence.allowed d = some now →
      spacing probe log'.tested ≤ now - s.lastDispatch) :
    Paced probe { s with dispatcher := d } log' := by
  refine h.move hcounted hdispatches (by simp [hd]) ?_ ?_ hallowed
  · rintro (rfl | rfl) <;> simp [undecided] at hd
  · rintro rfl
    simp [undecided] at hd

/-- A step that puts something else aside on its way there. -/
lemma Paced.settle {s t : State probe.workers} {log : Log} (h : Paced probe s log)
    (hd : undecided t.dispatcher = false)
    (hallowed : ∀ now, ProbeCadence.allowed t.dispatcher = some now →
      spacing probe log.tested ≤ now - s.lastDispatch)
    (htick : t.tick = s.tick) (hticks : t.ticks = s.ticks)
    (hlast : t.lastDispatch = s.lastDispatch) : Paced probe t log := by
  have hrest : Paced probe { s with dispatcher := t.dispatcher } log := h.rest rfl rfl hd hallowed
  exact hrest.of_same rfl htick hticks hlast

/-- The next tick is considered. -/
lemma Paced.next {s : State probe.workers} {log : Log} (h : Paced probe s log)
    (hd : s.dispatcher = .looping) :
    Paced probe { s with tick := s.tick + 1, dispatcher := .deadline } log := by
  have htick := h.tick
  have hbelow := h.below
  simp only [hd, undecided, Bool.false_eq_true, if_false] at htick hbelow
  refine ⟨h.ticks, ?_, h.positive, fun c hc => ?_, h.increasing, h.due, h.punctual, by simp,
    by simp, h.last, by simp [ProbeCadence.allowed], h.spaced⟩
  · simp only [undecided, if_true]
    omega
  · have := hbelow c hc
    simp only [undecided, if_true]
    omega

/-- Ticks are skipped. -/
lemma Paced.skip {s : State probe.workers} {log : Log} (h : Paced probe s log)
    (hd : s.dispatcher = .deadline) {tick : ℤ} (hlt : s.tick < tick) (clock foundAt : ℚ) :
    Paced probe { s with tick := tick, dispatcher := .looping }
      { log with clock := clock, foundAt := foundAt } := by
  have htick := h.tick
  have hbelow := h.below
  simp only [hd, undecided, if_true] at htick hbelow
  refine ⟨h.ticks, ?_, h.positive, fun c hc => ?_, h.increasing, h.due, h.punctual, by simp,
    by simp, h.last, by simp [ProbeCadence.allowed], h.spaced⟩
  · simp only [undecided, Bool.false_eq_true, if_false]
    omega
  · have := hbelow c hc
    simp only [undecided, Bool.false_eq_true, if_false]
    omega

/-- The tick is counted. -/
lemma Paced.count {s : State probe.workers} {log : Log} (h : Paced probe s log)
    (hd : s.dispatcher = .counting) (now : ℚ) :
    Paced probe { s with ticks := s.ticks + 1, dispatcher := .testing now }
      { log with
        clock := now
        counted := log.counted ++ [⟨s.tick, log.foundAt, log.clock⟩] } := by
  have hticks := h.ticks
  have htick := h.tick
  have hbelow := h.below
  simp only [hd, undecided, if_true] at htick hbelow
  refine ⟨?_, ?_, ?_, ?_, ?_, ?_, ?_, by simp, by simp, h.last, by simp [ProbeCadence.allowed],
    h.spaced⟩
  · simp only [List.length_append, List.length_singleton, hticks]
    push_cast
    rfl
  · simp only [undecided, Bool.false_eq_true, if_false]
    omega
  · simp only [List.forall_mem_append, List.forall_mem_singleton]
    exact ⟨h.positive, htick⟩
  · simp only [undecided, Bool.false_eq_true, if_false, List.forall_mem_append,
      List.forall_mem_singleton, le_refl, and_true]
    exact fun c hc => (hbelow c hc).le
  · refine List.pairwise_append.mpr ⟨h.increasing, List.pairwise_singleton _ _, ?_⟩
    simpa using hbelow
  · simp only [List.forall_mem_append, List.forall_mem_singleton]
    exact ⟨h.due, h.reached hd⟩
  · simp only [List.forall_mem_append, List.forall_mem_singleton]
    exact ⟨h.punctual, h.found (Or.inr hd)⟩

/-- The write is put on the queue. -/
lemma Paced.put {s : State probe.workers} {log : Log} (h : Paced probe s log) {job : Job}
    (hd : s.dispatcher = .putting job) :
    Paced probe
      { s with
        queue := s.queue ++ [job]
        lastDispatch := job.dispatched
        dispatcher := .looping }
      { log with dispatches := log.dispatches ++ [⟨job.dispatched, log.tested⟩] } := by
  have htick := h.tick
  have hbelow := h.below
  have hallowed := h.allowed job.dispatched (by rw [hd]; rfl)
  simp only [hd, undecided, Bool.false_eq_true, if_false] at htick hbelow
  refine ⟨h.ticks, by simpa [undecided] using htick, h.positive, by simpa [undecided] using hbelow,
    h.increasing, h.due, h.punctual, by simp, by simp, by simp, by simp [ProbeCadence.allowed], ?_⟩
  intro p hp
  rcases List.eq_nil_or_concat log.dispatches with hnil | ⟨before, x, hlog⟩
  · simp [hnil] at hp
  · have hlast := h.last x (by simp [hlog])
    have hspaced := h.spaced
    simp only [hlog, List.concat_eq_append, List.append_assoc, List.singleton_append] at hp hspaced
    rw [consecutive_append] at hp
    rcases List.mem_append.mp hp with hp | hp
    · exact hspaced p hp
    · obtain rfl : p = (x, ⟨job.dispatched, log.tested⟩) := by simpa using hp
      simp only [hlast]
      exact hallowed

/-- **Step lemma of the dispatcher.** -/
lemma paced_dispatcher {s : State probe.workers} {log : Log} (h : Paced probe s log) {r : Reading}
    (htimely : Timely probe (s, log) (.dispatcher r)) :
    Paced probe (dispatcherEffect probe s r) (observe probe s log (.dispatcher r)) := by
  have htick := h.tick
  have hfound := h.found
  have hallowed := h.allowed
  rcases hd : s.dispatcher with _ | _ | _ | _ | now | _ | now | _ | now | job | _ | _ | _
  all_goals
    simp only [hd, undecided, allowed, if_true, reduceCtorEq, or_true, or_false, forall_const,
      Option.some.injEq, forall_eq'] at htick hfound hallowed
    simp only [Timely, hd] at htimely
    simp only [dispatcherEffect, observe, hd]
  case looping =>
    split
    · exact h.rest rfl rfl rfl (by simp [allowed])
    · exact h.next hd
  case deadline =>
    split
    · next hearly =>
      refine h.move rfl rfl (fun _ => by rw [hd]; rfl) (fun _ => ?_) (by simp) (by simp [allowed])
      have hpos := probe.interval_pos
      simp only [deadlineOf]
      linarith
    · next hlate =>
      split
      · next hskip =>
        have hbehind : Behind probe s r.now := by
          unfold Behind deadlineOf
          linarith
        rw [if_pos hbehind]
        exact h.skip hd (tick_lt_truncate htick hbehind htimely.2) _ _
      · next hsoon =>
        have hbehind : ¬ Behind probe s r.now := by
          unfold Behind deadlineOf
          linarith
        rw [if_neg hbehind]
        refine h.move rfl rfl (fun _ => by rw [hd]; rfl) (fun _ => ?_) (fun _ => ?_)
          (by simp [allowed])
        · simpa [Behind] using hbehind
        · simp only [deadlineOf]
          linarith
  case waiting =>
    split
    · exact h.rest rfl rfl rfl (by simp [allowed])
    · next hout =>
      refine h.move rfl rfl (fun _ => by rw [hd]; rfl) (fun _ => hfound) (fun _ => ?_)
        (by simp [allowed])
      exact (htimely.resolve_left hout).2
  case counting => exact h.count hd r.now
  case testing =>
    split
    · exact h.rest rfl rfl rfl (by simp [allowed])
    · next hspaced =>
      refine h.rest rfl rfl rfl fun t ht => ?_
      obtain rfl : now = t := Option.some.inj ht
      exact not_lt.mp hspaced
  case spacedOut => exact h.settle rfl (by simp [allowed]) rfl rfl rfl
  case acquiring =>
    split
    · refine h.settle rfl (fun t ht => ?_) rfl rfl rfl
      obtain rfl : now = t := Option.some.inj ht
      exact hallowed
    · exact h.rest rfl rfl rfl (by simp [allowed])
  case saturated => exact h.settle rfl (by simp [allowed]) rfl rfl rfl
  case holding =>
    refine h.settle rfl (fun t ht => ?_) rfl rfl rfl
    obtain rfl : now = t := Option.some.inj ht
    exact hallowed
  case putting =>
    split
    · exact h.put hd
    · exact h.rest rfl rfl rfl (by simp [allowed])
  case full => exact h.settle rfl (by simp [allowed]) rfl rfl rfl
  case releasing => exact h.settle rfl (by simp [allowed]) rfl rfl rfl
  case returned => exact h

/-- **Step lemma.** -/
lemma paced_step {p q : State probe.workers × Log} {a : Action probe.workers}
    (hstep : watched probe p a = some q) (htimely : Timely probe p a) (h : Paced probe p.1 p.2) :
    Paced probe q.1 q.2 := by
  obtain ⟨t, ht, rfl⟩ := Option.map_eq_some_iff.mp hstep
  obtain ⟨-, rfl⟩ := guarded_eq_some.mp ht
  cases a with
  | setStop => exact h.of_same rfl rfl rfl rfl
  | dispatcher r => exact paced_dispatcher h htimely
  | worker i r => exact paced_worker h i r

/-! ### The cadence -/

/-- Ticks with different numbers that are all due by `t` are no more than the intervals that
have passed. -/
lemma Paced.rate {s : State probe.workers} {log : Log} (h : Paced probe s log) {t : ℚ}
    (ht : probe.epochMonotonic ≤ t) :
    ((log.counted.filter fun c => c.reachedAt ≤ t).length : ℤ) ≤
      ⌊(t - probe.epochMonotonic) / probe.intervalS⌋ := by
  have hpos := probe.interval_pos
  have hindices : ((log.counted.filter fun c => c.reachedAt ≤ t).map CountedTick.index).Nodup := by
    refine List.pairwise_map.mpr ?_
    exact (h.increasing.filter _).imp fun hlt => ne_of_lt hlt
  have hrange : ((log.counted.filter fun c => c.reachedAt ≤ t).map CountedTick.index).toFinset ⊆
      Finset.Icc 1 ⌊(t - probe.epochMonotonic) / probe.intervalS⌋ := by
    intro n hn
    obtain ⟨c, hc, rfl⟩ := List.mem_map.mp (List.mem_toFinset.mp hn)
    obtain ⟨hmem, hreached⟩ := List.mem_filter.mp hc
    have hreached := of_decide_eq_true hreached
    have hdue := h.due c hmem
    refine Finset.mem_Icc.mpr ⟨h.positive c hmem, Int.le_floor.mpr ?_⟩
    rw [le_div_iff₀ hpos]
    unfold deadlineOf at hdue
    linarith
  have hcard := Finset.card_le_card hrange
  have hfloor : 0 ≤ ⌊(t - probe.epochMonotonic) / probe.intervalS⌋ :=
    Int.floor_nonneg.mpr (div_nonneg (sub_nonneg.mpr ht) hpos.le)
  rw [List.toFinset_card_of_nodup hindices, List.length_map, Int.card_Icc] at hcard
  omega

lemma interval_le_spacing (medianLatency : Option ℚ) :
    probe.intervalS ≤ spacing probe medianLatency := by
  cases medianLatency with
  | none => exact le_refl _
  | some latency => exact le_max_left _ _

/-- **The cadence neither drifts nor bursts.** In every interleaving of the dispatcher and the
workers, whatever the clock reads as long as it does not go back, the ticks that are counted
have increasing numbers, are due when they are counted and were found no more than an
interval late, so that no more of them are counted than intervals have passed; and
dispatches keep the spacing of their time. -/
theorem cadence_of_run {first : ℚ} {as : List (Action probe.workers)} {s : State probe.workers}
    {log : Log} (epoch : probe.epochMonotonic ≤ first)
    (timely : Along (watched probe) (Timely probe) (start probe first) as)
    (h : run (watched probe) (start probe first) as = some (s, log)) :
    Cadence probe first s log := by
  have hpaced : Paced probe s log :=
    run_preserves_along (I := fun p => Paced probe p.1 p.2)
      (fun _ _ _ hstep htimely hI => paced_step hstep htimely hI) h timely (paced_start probe first)
  refine ⟨hpaced.ticks, hpaced.increasing, hpaced.due, hpaced.punctual,
    fun t ht => hpaced.rate (epoch.trans ht), fun p hp => ?_, fun p hp latency hlatency => ?_⟩
  · exact (interval_le_spacing _).trans (hpaced.spaced p hp)
  · have hspaced := hpaced.spaced p hp
    rwa [hlatency] at hspaced

/-- A dispatch on time, a long pause of the dispatcher, and a dispatch after it, with the first
write served in between. -/
def pausedRun : List (Action twoWorkers.workers) :=
  let dispatch (found : ℚ) : List (Action twoWorkers.workers) :=
    [.dispatcher {}, .dispatcher { now := found, later := found }, .dispatcher { now := found }] ++
      List.replicate 4 (.dispatcher { now := found })
  let first : Fin twoWorkers.workers := ⟨0, twoWorkers.workers_pos⟩
  dispatch (1 / 10) ++
    [.worker first {}, .worker first {}, .worker first { now := 1 / 2 }, .worker first {},
     .dispatcher {}, .dispatcher { now := 1, later := 101 / 100 }] ++ dispatch (11 / 10)

theorem pausedRun_cadence : ∃ s log,
    run (watched twoWorkers) (start twoWorkers 0) pausedRun = some (s, log) ∧
    log.counted.map CountedTick.index = [1, 11] ∧
    log.dispatches = [⟨1 / 10, none⟩, ⟨11 / 10, some (2 / 5)⟩] ∧
    Cadence twoWorkers 0 s log := by
  have hrun : (run (watched twoWorkers) (start twoWorkers 0) pausedRun).map
      (fun p => (p.2.counted.map CountedTick.index, p.2.dispatches)) =
        some ([1, 11], [⟨1 / 10, none⟩, ⟨11 / 10, some (2 / 5)⟩]) := by decide +kernel
  have htimely : Along (watched twoWorkers) (Timely twoWorkers) (start twoWorkers 0) pausedRun := by
    decide +kernel
  obtain ⟨⟨s, log⟩, hs, hlog⟩ := Option.map_eq_some_iff.mp hrun
  obtain ⟨hcounted, hdispatches⟩ := Prod.mk.inj hlog
  exact ⟨s, log, hs, hcounted, hdispatches, cadence_of_run (le_refl _) htimely hs⟩

end CrdbLab.ProbeCadence
