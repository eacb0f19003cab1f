import CrdbLab.InjectionTimer

/-!
What the record of a chaos run says about the injection, over every interleaving of the
timer and the main thread.

Absence encodes three things: the fault was never injected, its command has not come back
yet, and its connection died. A figure read while the command is out therefore says that the
fault was never injected; and where it really never was, the target of a `dead` run is
restored all the same, since its entry reads as a connection that died.
-/

namespace CrdbLab.FaultRecord

open CrdbLab.Lib.Runs CrdbLab.Lib.Rounding CrdbLab.InjectionTimer

variable {chaos : Chaos}

/-! ### What the timer has entered -/

variable (chaos) in
/-- The dictionary holds what the timer has done, entry by entry. -/
def Filled (s : State) : Prop :=
  match s.timer with
  | .gaveUp => s.call = none ∧ s.injected = notInjected
  | .calling at_ => s.call = some (at_, none) ∧ s.injected = {}
  | .stampingOffset at_ =>
    ∃ outcome, s.call = some (at_, some (injectFault at_ outcome)) ∧
      s.injected = injectFault at_ outcome
  | .stampingSteadyState at_ =>
    ∃ outcome, s.call = some (at_, some (injectFault at_ outcome)) ∧
      s.injected =
        { injectFault at_ outcome with atOffsetS := some (roundTo 3 (at_ - chaos.tZero)) }
  | .finished =>
    ∃ at_ outcome steady, s.call = some (at_, some (injectFault at_ outcome)) ∧
      s.injected =
        { injectFault at_ outcome with
          atOffsetS := some (roundTo 3 (at_ - chaos.tZero))
          atSteadyStateOffsetS := steady }
  | _ => s.call = none ∧ s.injected = {}

lemma filled_init : Filled chaos init := ⟨rfl, rfl⟩

variable (chaos) in
/-- The main thread only reads what the timer enters. -/
lemma mainEffect_frame (s : State) (a : MainAction) :
    (mainEffect chaos s a).timer = s.timer ∧ (mainEffect chaos s a).call = s.call ∧
      (mainEffect chaos s a).injected = s.injected := by
  cases a with
  | tick arrived => simp only [mainEffect]; split <;> exact ⟨rfl, rfl, rfl⟩
  | read => simp only [mainEffect, readNext]; split <;> exact ⟨rfl, rfl, rfl⟩
  | _ => exact ⟨rfl, rfl, rfl⟩

variable (chaos) in
/-- The timer does not touch the record. -/
lemma timerEffect_frame (s : State) (a : TimerAction) :
    (timerEffect chaos s a).main = s.main ∧ (timerEffect chaos s a).record = s.record := by
  cases a with
  | measure now => simp only [timerEffect]; split <;> exact ⟨rfl, rfl⟩
  | finish outcome => simp only [timerEffect]; split <;> exact ⟨rfl, rfl⟩
  | stamp => simp only [timerEffect]; split <;> exact ⟨rfl, rfl⟩
  | _ => exact ⟨rfl, rfl⟩

lemma filled_timerEffect {s : State} {a : TimerAction} (h : timerEnabled s a = true)
    (hs : Filled chaos s) : Filled chaos (timerEffect chaos s a) := by
  cases a with
  | wait signaled =>
    have htimer : s.timer = .awaitingSample := of_decide_eq_true (Bool.and_eq_true_iff.mp h).1
    rw [Filled, htimer] at hs
    cases signaled <;> exact hs
  | update =>
    have htimer : s.timer = .givingUp := of_decide_eq_true h
    rw [Filled, htimer] at hs
    exact ⟨hs.1, rfl⟩
  | check =>
    have htimer : s.timer = .checkingStop := of_decide_eq_true h
    rw [Filled, htimer] at hs
    cases hstop : s.stopTimer <;> simpa [timerEffect, hstop, Filled] using hs
  | measure now =>
    have htimer : s.timer = .measuring := of_decide_eq_true h
    rw [Filled, htimer] at hs
    simp only [timerEffect]
    split
    · exact hs
    · exact ⟨rfl, hs.2⟩
  | sleep signaled =>
    have htimer : s.timer = .sleeping := of_decide_eq_true (Bool.and_eq_true_iff.mp h).1
    rw [Filled, htimer] at hs
    cases signaled <;> exact hs
  | finish outcome =>
    rcases htimer : s.timer with _ | _ | _ | _ | _ | _ | at_ | at_ | at_ | _ | _
    case calling =>
      simp only [timerEffect, htimer]
      exact ⟨outcome, rfl, rfl⟩
    all_goals simp [timerEnabled, htimer] at h
  | stamp =>
    rcases htimer : s.timer with _ | _ | _ | _ | _ | _ | at_ | at_ | at_ | _ | _
    case stampingOffset =>
      rw [Filled, htimer] at hs
      obtain ⟨outcome, hcall, hinjected⟩ := hs
      simp only [timerEffect, htimer]
      exact ⟨outcome, hcall, by rw [hinjected]⟩
    case stampingSteadyState =>
      rw [Filled, htimer] at hs
      obtain ⟨outcome, hcall, hinjected⟩ := hs
      simp only [timerEffect, htimer]
      exact ⟨at_, outcome, _, hcall, by rw [hinjected]⟩
    all_goals simp [timerEnabled, htimer] at h

/-- **Step lemma**: the dictionary keeps up with the timer. -/
theorem filled_step {s : State} {a : Action} {t : State} (h : step chaos s a = some t)
    (hs : Filled chaos s) : Filled chaos t := by
  obtain ⟨he, rfl⟩ := guarded_eq_some.mp h
  cases a with
  | timer a => exact filled_timerEffect he hs
  | main a =>
    obtain ⟨htimer, hcall, hinjected⟩ := mainEffect_frame chaos s a
    simpa only [Filled, effect, htimer, hcall, hinjected] using hs

/-! ### The figures -/

variable (chaos) in
/-- If the fault command had been sent by now, the figure this step enters into the record is
computed from that injection. -/
def FigureAgrees (s : State) (a : Action) : Prop :=
  a = .main .read → ∀ at_ returned, s.call = some (at_, returned) →
    match s.main with
    | .performance =>
      (readNext chaos s).record.performance = some (.since (roundTo 3 (at_ - chaos.tZero)))
    | .availability => (readNext chaos s).record.availability = some (.since at_)
    | .probe => (readNext chaos s).record.probe = some (.since (roundTo 3 (at_ - chaos.tZero)))
    | .events => ∃ r, returned = some r ∧ (readNext chaos s).record.faultLanded = r.landed
    | _ => True

/-- The fault command is out. -/
def Timer.out : Timer → Bool
  | .calling _ => true
  | _ => false

/-- The fault command is out, or came back and is not placed on the run's clock yet. -/
def Timer.unplaced : Timer → Bool
  | .calling _ | .stampingOffset _ => true
  | _ => false

/-- The main thread reads an entry that the timer has yet to make. -/
def TooEarly (s : State) (a : Action) : Prop :=
  a = .main .read ∧
    match s.main with
    | .performance | .probe => Timer.unplaced s.timer = true
    | .availability | .events => Timer.out s.timer = true
    | _ => False

/-- Once the command was sent, the entries are those of its return, or not there yet. -/
lemma Filled.called {s : State} {at_ : ℚ} {returned : Option Injected} (hs : Filled chaos s)
    (hcall : s.call = some (at_, returned)) :
    (Timer.out s.timer = true ∧ Timer.unplaced s.timer = true ∧ returned = none ∧
      s.injected = {}) ∨
    Timer.out s.timer = false ∧ ∃ outcome, returned = some (injectFault at_ outcome) ∧
      s.injected.atMonotonic = some at_ ∧
      s.injected.landed = (injectFault at_ outcome).landed ∧
      s.injected.atOffsetS =
        if Timer.unplaced s.timer then none else some (roundTo 3 (at_ - chaos.tZero)) := by
  rcases ht : s.timer with _ | _ | _ | _ | _ | _ | b | b | b | _ | _
  all_goals simp only [Filled, ht, hcall, Option.some.injEq, Prod.mk.injEq, reduceCtorEq,
    false_and] at hs
  case calling =>
    obtain ⟨⟨rfl, rfl⟩, hinjected⟩ := hs
    exact .inl ⟨rfl, rfl, rfl, hinjected⟩
  case stampingOffset =>
    obtain ⟨outcome, ⟨rfl, rfl⟩, hinjected⟩ := hs
    rw [hinjected]
    exact .inr ⟨rfl, outcome, rfl, rfl, rfl, rfl⟩
  case stampingSteadyState =>
    obtain ⟨outcome, ⟨rfl, rfl⟩, hinjected⟩ := hs
    rw [hinjected]
    exact .inr ⟨rfl, outcome, rfl, rfl, rfl, rfl⟩
  case finished =>
    obtain ⟨b, outcome, steady, ⟨rfl, rfl⟩, hinjected⟩ := hs
    rw [hinjected]
    exact .inr ⟨rfl, outcome, rfl, rfl, rfl, rfl⟩

/-- An entry can only be outstanding once the command was sent. -/
lemma Filled.call_ne_none {s : State} (hs : Filled chaos s) (h : Timer.unplaced s.timer = true) :
    ∃ at_ returned, s.call = some (at_, returned) := by
  rcases ht : s.timer with _ | _ | _ | _ | _ | _ | b | b | b | _ | _
  all_goals simp only [Filled, ht] at hs
  case calling => exact ⟨_, _, hs.1⟩
  case stampingOffset =>
    obtain ⟨outcome, hcall, -⟩ := hs
    exact ⟨_, _, hcall⟩
  all_goals simp [ht, Timer.unplaced] at h

lemma Timer.unplaced_of_out {t : Timer} (h : Timer.out t = true) : Timer.unplaced t = true := by
  cases t <;> simp_all [Timer.out, Timer.unplaced]

/-- **Step lemma**: a figure goes wrong exactly when its entry is read too early. -/
theorem figureAgrees_iff {s : State} {a : Action} (hs : Filled chaos s) :
    FigureAgrees chaos s a ↔ ¬ TooEarly s a := by
  by_cases ha : a = .main .read
  case neg => simp [FigureAgrees, TooEarly, ha]
  rcases hcall : s.call with _ | ⟨at_, returned⟩
  · -- nothing is outstanding
    have hplaced : Timer.unplaced s.timer ≠ true := by
      intro h
      obtain ⟨at_, returned, h⟩ := hs.call_ne_none h
      simp [hcall] at h
    have hout : Timer.out s.timer ≠ true := fun h => hplaced (Timer.unplaced_of_out h)
    simp only [FigureAgrees, TooEarly, hcall, reduceCtorEq, false_implies, implies_true, true_iff]
    rintro ⟨-, h⟩
    split at h
    all_goals first | exact hplaced h | exact hout h | exact h
  · simp only [FigureAgrees, TooEarly, ha, forall_const, hcall, Option.some.injEq, Prod.mk.injEq,
      and_imp, forall_apply_eq_imp_iff, forall_eq', true_and]
    rcases hs.called hcall with ⟨hout, hunplaced, rfl, hinjected⟩ |
      ⟨hout, outcome, rfl, hat, hlanded, hoffset⟩
    · cases hm : s.main <;> simp [readNext, hm, hinjected, figureOf, hout, hunplaced]
    · cases hm : s.main <;> cases hu : Timer.unplaced s.timer <;>
        simp [readNext, hm, hat, hlanded, hoffset, figureOf, hout, hu]

/-- Over a whole run, the figures go wrong exactly where an entry is read too early. -/
lemma figuresAgree_iff (as : List Action) :
    Along (step chaos) (FigureAgrees chaos) init as ↔
      Along (step chaos) (fun s a => ¬ TooEarly s a) init as :=
  along_congr (I := Filled chaos) (fun _ _ _ => filled_step) (fun _ _ => figureAgrees_iff)
    filled_init

/-! ### The repair -/

variable (chaos) in
/-- The target of a `dead` run is restored before the fault command was ever sent, the timer
not having given up either. -/
def Unasked (s : State) (a : Action) : Prop :=
  a = .main .read ∧ s.main = .restoring ∧ chaos.mode = .dead ∧ s.call = none ∧
    s.timer ≠ .gaveUp

/-- Without a call, only a timer that gave up has entered anything. -/
lemma Filled.landed {s : State} (hs : Filled chaos s) (hcall : s.call = none) :
    s.injected.landed = some false ↔ s.timer = .gaveUp := by
  rcases ht : s.timer with _ | _ | _ | _ | _ | _ | b | b | b | _ | _
  all_goals simp only [Filled, ht, hcall] at hs
  case gaveUp => simp [hs.2, notInjected]
  case calling => simp at hs
  case stampingOffset => simp at hs
  case stampingSteadyState => simp at hs
  case finished => simp at hs
  all_goals simp [hs.2]

/-- The call is never forgotten. -/
lemma call_ne_none_step {s : State} {a : Action} {t : State} (h : step chaos s a = some t)
    (hs : s.call ≠ none) : t.call ≠ none := by
  obtain ⟨-, rfl⟩ := guarded_eq_some.mp h
  cases a with
  | main a => simpa only [effect, (mainEffect_frame chaos s a).2.1] using hs
  | timer a =>
    cases a with
    | measure now => simp only [effect, timerEffect]; split <;> simp [hs]
    | finish outcome => simp only [effect, timerEffect]; split <;> simp [hs]
    | stamp => simp only [effect, timerEffect]; split <;> exact hs
    | _ => exact hs

/-- How a step decides whether the target is restored. -/
lemma restored_step {s : State} {a : Action} {t : State} (h : step chaos s a = some t) :
    (s.main = .restoring ∧ a = .main .read ∧ t.main = .done ∧ t.call = s.call ∧
      (t.record.restored = true ↔ chaos.mode = .dead ∧ s.injected.landed ≠ some false)) ∨
    (¬(s.main = .restoring ∧ a = .main .read) ∧ t.record.restored = s.record.restored ∧
      (s.main = .done → t.main = .done)) := by
  obtain ⟨he, rfl⟩ := guarded_eq_some.mp h
  cases a with
  | timer a =>
    obtain ⟨hmain, hrecord⟩ := timerEffect_frame chaos s a
    exact .inr ⟨by simp, by simp [effect, hrecord], by simp [effect, hmain]⟩
  | main a =>
    cases a with
    | read =>
      cases hm : s.main
      case restoring =>
        exact .inl ⟨rfl, rfl, by simp [effect, mainEffect, readNext, hm],
          by simp [effect, mainEffect, readNext, hm], by simp [effect, mainEffect, readNext, hm]⟩
      all_goals exact .inr ⟨by simp, by simp [effect, mainEffect, readNext, hm],
        by simp [effect, mainEffect, readNext, hm]⟩
    | tick arrived =>
      refine .inr ⟨by simp, ?_, ?_⟩ <;> simp only [effect, mainEffect] <;> split <;> simp
    | _ =>
      refine .inr ⟨by simp, rfl, fun hm => ?_⟩
      simp [enabled, mainEnabled, hm] at he

/-- The target is restored in a run without an injection exactly when it was done unasked. -/
theorem restored_iff {as : List Action} {s : State} (h : run (step chaos) init as = some s)
    (hcall : s.call = none) :
    s.record.restored = false ↔ Along (step chaos) (fun s a => ¬ Unasked chaos s a) init as := by
  refine ⟨fun hkept => ?_, fun halong => ?_⟩
  · by_contra hunasked
    have hdone : s.main = .done ∧ (s.call = none → s.record.restored = true) := by
      refine reaches_of_not_along (I := Filled chaos)
        (T := fun s => s.main = .done ∧ (s.call = none → s.record.restored = true))
        (fun s a t => filled_step) ?_ ?_ h filled_init hunasked
      · intro s a t hst hs hun
        obtain ⟨ha, hmain, hmode, hnone, htimer⟩ := not_not.mp hun
        rcases restored_step hst with ⟨-, -, hdone, -, hiff⟩ | ⟨hnot, -, -⟩
        · refine ⟨hdone, fun _ => hiff.mpr ⟨hmode, fun hl => htimer ?_⟩⟩
          exact (hs.landed hnone).mp hl
        · exact absurd ⟨hmain, ha⟩ hnot
      · intro s a t hst ⟨hdone, hrestored⟩
        rcases restored_step hst with ⟨hmain, -⟩ | ⟨-, hsame, hstay⟩
        · simp [hmain] at hdone
        · refine ⟨hstay hdone, fun hnone => ?_⟩
          rw [hsame]
          refine hrestored ?_
          by_contra hne
          exact call_ne_none_step hst hne hnone
    exact absurd (hdone.2 hcall) (by simp [hkept])
  · have hinv : Filled chaos s ∧ (s.call = none → s.record.restored = false) := by
      refine run_preserves_along (I := fun s => Filled chaos s ∧
        (s.call = none → s.record.restored = false)) ?_ h halong ⟨filled_init, fun _ => rfl⟩
      intro s a t hst hun ⟨hs, hkept⟩
      refine ⟨filled_step hst hs, fun hnone => ?_⟩
      have hnone' : s.call = none := by
        by_contra hne
        exact call_ne_none_step hst hne hnone
      rcases restored_step hst with ⟨hmain, ha, -, -, hiff⟩ | ⟨-, hsame, -⟩
      · rw [Bool.eq_false_iff]
        intro hrestored
        obtain ⟨hmode, hl⟩ := hiff.mp hrestored
        refine hun ⟨ha, hmain, hmode, hnone', fun htimer => hl ?_⟩
        exact (hs.landed hnone').mpr htimer
      · rw [hsame]
        exact hkept hnone'
    exact hinv.2 hcall

/-! ### The record -/

variable (chaos) in
/-- The record of a run agrees with what was done: every figure computed after the fault
command was sent is computed from that injection, and without one nothing is restored. -/
def RecordAgrees (as : List Action) (s : State) : Prop :=
  Along (step chaos) (FigureAgrees chaos) init as ∧ (s.call = none → s.record.restored = false)

/-- **The record agrees with what was done** in precisely the runs in which no entry is read
too early and, where the fault command is never sent, no restoration is unasked. -/
theorem recordAgrees_iff {as : List Action} {s : State}
    (h : run (step chaos) init as = some s) :
    RecordAgrees chaos as s ↔
      Along (step chaos) (fun s a => ¬ TooEarly s a) init as ∧
      (s.call = none → Along (step chaos) (fun s a => ¬ Unasked chaos s a) init as) := by
  refine and_congr ?_ (forall_congr' fun hcall => restored_iff h hcall)
  exact figuresAgree_iff as

/-- While the record is built, a timer joined in time has ended. -/
def JoinedBefore (s : State) : Prop :=
  s.timer.ended = true ∨ s.main = .streaming ∨ s.main = .stopping ∨ s.main = .releasing ∨
    s.main = .joining

lemma timerEnabled_not_ended {s : State} {a : TimerAction} (h : timerEnabled s a = true) :
    s.timer.ended = false := by
  rcases ht : s.timer <;> cases a <;> simp [timerEnabled, Timer.ended, ht] at h ⊢

lemma joinedBefore_step {s : State} {a : Action} {t : State} (h : step chaos s a = some t)
    (hjoin : a ≠ .main .joinExpires) (hs : JoinedBefore s) : JoinedBefore t := by
  obtain ⟨he, rfl⟩ := guarded_eq_some.mp h
  cases a with
  | timer a =>
    rcases hs with hs | hs
    · simp [timerEnabled_not_ended he] at hs
    · exact .inr (by simpa only [effect, (timerEffect_frame chaos s a).1] using hs)
  | main a =>
    rcases hs with hs | hs
    · exact .inl (by simpa only [effect, (mainEffect_frame chaos s a).1] using hs)
    · cases a with
      | joinReturns => exact .inl (Bool.and_eq_true_iff.mp he).2
      | joinExpires => exact absurd rfl hjoin
      | read => rcases hs with hm | hm | hm | hm <;> simp [enabled, mainEnabled, hm] at he
      | tick arrived =>
        simp only [effect, mainEffect]
        split <;> exact .inr hs
      | _ => simp [JoinedBefore, effect, mainEffect]

/-- **A timer that ended within the join's time-out**: every figure is computed from the
injection, however the threads were interleaved. -/
theorem figures_agree_of_joined {as : List Action}
    (hjoin : Along (step chaos) (fun _ a => a ≠ .main .joinExpires) init as) :
    Along (step chaos) (FigureAgrees chaos) init as := by
  rw [figuresAgree_iff]
  refine along_of_invariant (fun s a t => joinedBefore_step) ?_ hjoin (.inr (.inl rfl))
  rintro s a hs ⟨-, hm⟩
  rcases hs with hended | hs | hs | hs | hs
  · cases ht : s.timer <;> simp [ht, Timer.ended] at hended <;>
      cases hmain : s.main <;> simp [hmain, ht, Timer.out, Timer.unplaced] at hm
  all_goals simp [hs] at hm

/-- A node killed thirty seconds into steady state. -/
def killAtThirty : Chaos := ⟨.dead, 30, 0⟩

/-- The command comes back at once, and the stream ends long after it. -/
def promptRun : List Action :=
  [.main (.tick 5), .timer (.wait true), .timer .check, .timer (.measure 35),
    .timer (.finish (.exited 0)), .timer .stamp, .timer .stamp, .main .endStream,
    .main .setStop, .main .setSampleSeen, .main .joinReturns] ++ List.replicate 5 (.main .read)

theorem promptRun_agrees : ∃ s, run (step killAtThirty) init promptRun = some s ∧
    s.record = ⟨some (.since 35), some (.since 35), some (.since 35), some true, true⟩ ∧
    (RecordAgrees killAtThirty promptRun s ↔
      Along (step killAtThirty) (fun s a => ¬ TooEarly s a) init promptRun ∧
      (s.call = none → Along (step killAtThirty) (fun s a => ¬ Unasked killAtThirty s a) init
        promptRun)) := by
  have hrecord : (run (step killAtThirty) init promptRun).map State.record =
      some ⟨some (.since 35), some (.since 35), some (.since 35), some true, true⟩ := by
    decide +kernel
  obtain ⟨s, hs, hr⟩ := Option.map_eq_some_iff.mp hrecord
  exact ⟨s, hs, hr, recordAgrees_iff hs⟩

/-- The stream ends just after the command was sent, and the join expires before it is back. -/
def slowJoin : List Action :=
  [.main (.tick 5), .timer (.wait true), .timer .check, .timer (.measure 35), .main .endStream,
    .main .setStop, .main .setSampleSeen, .main .joinExpires]

def slowRun : List Action := slowJoin ++ List.replicate 5 (.main .read)

/-- The generator stops before the fault is due. -/
def stoppedRun : List Action :=
  [.main (.tick 5), .timer (.wait true), .timer .check, .timer (.measure 6), .main .endStream,
    .main .setStop, .timer (.sleep true), .main .setSampleSeen, .main .joinReturns] ++
    List.replicate 5 (.main .read)

/-- The fault command was sent at 35 s and every figure says that there was none; and a node
that nobody touched is restored. -/
theorem slowRun_not_agrees :
    (∃ s, run (step killAtThirty) init slowRun = some s ∧ s.call = some (35, none) ∧
      s.record = ⟨some .neverInjected, some .neverInjected, some .neverInjected, none, true⟩ ∧
      ¬ RecordAgrees killAtThirty slowRun s) ∧
    ∃ s, run (step killAtThirty) init stoppedRun = some s ∧ s.call = none ∧
      s.record.restored = true ∧ ¬ RecordAgrees killAtThirty stoppedRun s := by
  refine ⟨?_, ?_⟩
  · have hrecord : (run (step killAtThirty) init slowRun).map (fun s => (s.call, s.record)) =
        some (some (35, none),
          ⟨some .neverInjected, some .neverInjected, some .neverInjected, none, true⟩) := by
      decide +kernel
    have hjoin : (run (step killAtThirty) init slowJoin).map
        (fun s => (s.main, s.call, (readNext killAtThirty s).record.performance)) =
        some (.performance, some (35, none), some .neverInjected) := by decide +kernel
    obtain ⟨s, hs, hr⟩ := Option.map_eq_some_iff.mp hrecord
    obtain ⟨t, ht, hr'⟩ := Option.map_eq_some_iff.mp hjoin
    simp only [Prod.mk.injEq] at hr hr'
    refine ⟨s, hs, hr.1, hr.2, fun hagrees => ?_⟩
    have hfigure := hagrees.1.at ht rfl 35 none hr'.2.1
    simp [hr'.1, hr'.2.2] at hfigure
  · have hrecord : (run (step killAtThirty) init stoppedRun).map
        (fun s => (s.call, s.record.restored)) = some (none, true) := by decide +kernel
    obtain ⟨s, hs, hr⟩ := Option.map_eq_some_iff.mp hrecord
    simp only [Prod.mk.injEq] at hr
    refine ⟨s, hs, hr.1, hr.2, fun hagrees => ?_⟩
    simpa [hr.2] using hagrees.2 hr.1

end CrdbLab.FaultRecord
