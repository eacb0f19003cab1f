import CrdbLab.Pipeline

/-!
VMs that a run leaves up, and whether the run says so.

The runner follows the VMs with its `deployed` flag. An exception that no handler catches ends
the run where it is raised: if VMs are up by then, nobody is told.
-/

namespace CrdbLab.LeftVms

open CrdbLab.Lib.Effects CrdbLab.Pipeline

def Event.Destroys : Event → Prop
  | .destroyed _ => True
  | .applied _ => False

/-- An apply for the engine was started and no destroy has completed since. -/
def Up (events : List Event) (e : Engine) : Prop := Open Event.Destroys events (.applied e)

/-- The run names the engine to clean up. -/
def Named (s : State) (e : Engine) : Prop := s.result.cleanupCmd = some (cleanupCommand e)

/-- The exception is caught where it is raised: in the cleanup only these two are, outside of
it every `Exception`. -/
def Caught (cleaning : Bool) : Exn → Prop
  | .stepFailed _ | .tailscale _ => True
  | .aborted | .other _ _ => cleaning = false
  | .fatal _ _ => False

/-- Every exception of the outside that found VMs up was caught. -/
def Contained (s : State) : Prop :=
  ∀ r ∈ s.raised, (∃ e, Up r.events e) → Caught r.cleaning r.exn

/-- What the end of a run is held to. -/
def Settled (s : State) : Prop := (∀ e, Up s.events e → Named s e) ↔ Contained s

/-! ### What the log leaves up -/

lemma up_applied {events : List Event} {e e' : Engine} :
    Up (events ++ [.applied e]) e' ↔ e' = e ∨ Up events e' := by
  rw [Up, open_snoc]
  constructor
  · rintro (h | ⟨h, -⟩)
    · cases h
      exact Or.inl rfl
    · exact Or.inr h
  · rintro (rfl | h)
    · exact Or.inl rfl
    · exact Or.inr ⟨h, fun hd => hd⟩

lemma not_up_destroyed {events : List Event} {e e' : Engine} :
    ¬ Up (events ++ [.destroyed e]) e' := by
  rw [Up, open_snoc]
  rintro (h | ⟨-, h⟩)
  · cases h
  · exact h trivial

/-! ### What holds at a step -/

/-- What the flag and the log say of the VMs. -/
abbrev View := Option Engine → List Event → Prop

/-- No VMs. -/
def idle : View := fun d l => d = none ∧ ∀ e, ¬ Up l e

/-- The flag is set, the apply not started. -/
def flagged (e : Engine) : View := fun d l => d = some e ∧ ∀ e', ¬ Up l e'

/-- The engine's VMs may be up. -/
def deployed (e : Engine) : View := fun d l => d = some e ∧ ∀ e', Up l e' → e' = e

/-- The flag names what is up. -/
def tracked : View := fun d l => ∀ e, Up l e → d = some e

/-- Only the engine's VMs may be up. -/
def only (e : Engine) : View := fun _ l => ∀ e', Up l e' → e' = e

/-- Nothing is up. -/
def down : View := fun _ l => ∀ e, ¬ Up l e

lemma idle_le_tracked : idle ≤ tracked := fun _ _ h e he => absurd he (h.2 e)

lemma deployed_le_tracked (e : Engine) : deployed e ≤ tracked := fun d l h e' he' => by
  rw [h.2 e' he']
  exact h.1

lemma flagged_le_deployed (e : Engine) : flagged e ≤ deployed e :=
  fun _ _ h => ⟨h.1, fun e' he' => absurd he' (h.2 e')⟩

/-- A run under way: nothing named yet, and every exception so far was caught. -/
structure Steady (cleaning : Bool) (V : View) (s : State) : Prop where
  cleaning : s.cleaning = cleaning
  unnamed : s.result.cleanupCmd = none
  contained : Contained s
  view : V s.deployed s.events

/-- Where an exception is raised: a handler goes on from there, or the run is at its end. -/
def Raised (cleaning : Bool) (V : View) (ex : Exn) (s : State) : Prop :=
  (Caught cleaning ex → Steady cleaning V s) ∧ (¬ Caught cleaning ex → Settled s)

variable {c : Bool} {U V W X : View}

lemma Steady.mono {s : State} (h : Steady c V s) (hVW : V ≤ W) : Steady c W s :=
  ⟨h.cleaning, h.unnamed, h.contained, hVW _ _ h.view⟩

lemma Raised.of_caught {ex : Exn} {s : State} (hex : Caught c ex) (h : Steady c V s) :
    Raised c V ex s :=
  ⟨fun _ => h, fun hn => absurd hex hn⟩

/-- With nothing up there is nothing to name. -/
lemma Steady.settled_of_down {s : State} (h : Steady c V s) (hV : V ≤ down) : Settled s :=
  iff_of_true (fun e he => absurd he (hV _ _ h.view e)) h.contained

lemma settled_of_named {s : State} {e : Engine} (hc : Contained s)
    (hup : ∀ e', Up s.events e' → e' = e) (hn : Named s e) : Settled s :=
  iff_of_true (fun e' he' => by rw [hup e' he']; exact hn) hc

/-! ### The plumbing -/

/-- The computation keeps the run steady, from one view to another, or raises in a third. -/
abbrev Keeps {A : Type} (c : Bool) (V : View) (m : Step A) (W X : View) : Prop :=
  Triple (Steady c V) m (fun _ => Steady c W) (Raised c X)

variable (world : World) (args : Args) {R : Exn → State → Prop}

lemma next_keeps : Triple (Steady c V) (next world) (fun _ => Steady c V) R :=
  fun _ hs => ⟨hs.cleaning, hs.unnamed, hs.contained, hs.view⟩

lemma raiseIf_keeps {b : Bool} {ex : Exn} (hVX : V ≤ X) (hex : b = true → Caught c ex) :
    Keeps c V (raiseIf b ex) V X := by
  unfold raiseIf
  refine Triple.ite (fun hb => Triple.throw fun s hs => ?_) fun _ => Triple.pure fun _ hs => hs
  exact Raised.of_caught (hex hb) (hs.mono hVX)

lemma record_keeps {l : List Event} (h : ∀ d m, V d m → W d (m ++ l)) :
    Triple (Steady c V) (record l) (fun _ => Steady c W) R :=
  Triple.modify fun _ hs => ⟨hs.cleaning, hs.unnamed, hs.contained, h _ _ hs.view⟩

/-- An exception of the outside is caught, or it ends the run with what was up still up. -/
lemma outside_keeps (x : Option Exn) (hVX : V ≤ X) : Keeps c V (outside x) V X := by
  cases x with
  | none => exact Triple.pure fun _ hs => hs
  | some ex =>
    refine Triple.bind (Q := fun _ => Raised c X ex)
      (Triple.modify fun s hs => ?_) fun _ => Triple.throw fun _ hs => hs
    refine ⟨fun hex => ⟨hs.cleaning, hs.unnamed, ?_, hVX _ _ hs.view⟩, fun hex => ?_⟩
    · intro r hr hup
      rcases List.mem_append.mp hr with hr | hr
      · exact hs.contained r hr hup
      · obtain rfl := List.mem_singleton.mp hr
        show Caught s.cleaning ex
        rw [hs.cleaning]
        exact hex
    · by_cases hup : ∃ e, Up s.events e
      · refine iff_of_false (fun h => ?_) fun h => hex ?_
        · obtain ⟨e, he⟩ := hup
          have hnamed : s.result.cleanupCmd = some (cleanupCommand e) := h e he
          rw [hs.unnamed] at hnamed
          cases hnamed
        · have := h ⟨ex, s.cleaning, s.events⟩ (by simp) hup
          rwa [hs.cleaning] at this
      · refine iff_of_true (fun e he => absurd ⟨e, he⟩ hup) fun r hr hrup => ?_
        rcases List.mem_append.mp hr with hr | hr
        · exact hs.contained r hr hrup
        · obtain rfl := List.mem_singleton.mp hr
          exact absurd hrup hup

lemma checkAbort_keeps (hVX : V ≤ X) : Keeps c V (checkAbort world) V X := by
  refine Triple.bind (next_keeps world) fun _ => Triple.get_bind fun s hs => ?_
  refine Triple.pre (P := Steady c V) (raiseIf_keeps hVX fun hb => ?_) ?_
  · have : s.cleaning = false := by simpa using (Bool.and_eq_true_iff.mp hb).2
    rw [← hs.cleaning]
    exact this
  · rintro _ rfl
    exact hs

/-- What a command leaves, given what its start and its exit do to the log. -/
lemma cmd_keeps {argv : List String} {job : Job} (hVU : V ≤ U) (hUX : U ≤ X)
    (hstart : ∀ d l, V d l → U d (l ++ job.onStart))
    (hexit : ∀ status d l, U d l → U d (l ++ job.onExit status))
    (hdone : ∀ d l, U d l → W d (l ++ job.onExit 0)) :
    Keeps c V (cmd world argv job) W X := by
  have hVX : V ≤ X := le_trans hVU hUX
  refine Triple.bind (checkAbort_keeps world hVX) fun _ => ?_
  refine Triple.bind (next_keeps world) fun answer => ?_
  refine Triple.bind (outside_keeps answer.start hVX) fun _ => ?_
  refine Triple.bind (Q := fun _ => Steady c V)
    (Triple.modify fun s hs => ⟨hs.cleaning, hs.unnamed, hs.contained, hs.view⟩) fun _ => ?_
  refine Triple.bind (record_keeps hstart) fun _ => ?_
  refine Triple.bind (outside_keeps answer.stream hUX) fun _ => ?_
  -- after the exit the log is known only when the status is zero
  let ended : View := fun d l => U d l ∧ (answer.status = 0 → W d l)
  have hended : ended ≤ X := fun d l h => hUX d l h.1
  have hexits : ∀ d l, U d l → ended d (l ++ job.onExit answer.status) := by
    refine fun d l h => ⟨hexit _ d l h, fun hst => ?_⟩
    rw [hst]
    exact hdone d l h
  refine Triple.bind (record_keeps hexits) fun _ => ?_
  refine Triple.bind (Q := fun _ => Steady c ended)
    (Triple.modify fun s hs => ⟨hs.cleaning, hs.unnamed, hs.contained, hs.view⟩) fun _ => ?_
  refine Triple.bind (checkAbort_keeps world hended) fun _ => ?_
  unfold raiseIf
  refine Triple.ite (fun _ => Triple.throw fun s hs => ?_) fun hst => Triple.pure fun s hs => ?_
  · exact Raised.of_caught trivial (hs.mono hended)
  · exact hs.mono fun d l h => h.2 (by simpa using hst)

/-- A command that does nothing to the VMs. -/
lemma cmd_other_keeps {argv : List String} (hVX : V ≤ X) : Keeps c V (cmd world argv) V X := by
  refine cmd_keeps world le_rfl hVX ?_ ?_ ?_ <;> intros <;> simpa [Job.onStart, Job.onExit]

lemma call_keeps (hVX : V ≤ X) : Keeps c V (call world) V X := by
  refine Triple.bind (next_keeps world) fun answer => ?_
  exact Triple.bind (outside_keeps answer.call hVX) fun _ => Triple.pure fun _ hs => hs

lemma discard_keeps {A : Type} {m : Step A} (h : Keeps c V m W X) :
    Keeps c V (do let _ ← m) W X :=
  Triple.bind h fun _ => Triple.pure fun _ hs => hs

lemma logout_keeps (hVX : V ≤ X) : Keeps c V (logout world) V X :=
  discard_keeps (call_keeps world hVX)

lemma purge_keeps (hVX : V ≤ X) : Keeps c V (purge world) V X :=
  Triple.bind (checkAbort_keeps world hVX) fun _ => discard_keeps (call_keeps world hVX)

/-- A destroy that returns leaves no VMs, from any view a completed destroy does not upset. -/
lemma destroy_keeps {e : Engine} (hVX : V ≤ X) (hV : ∀ d l, V d l → V d (l ++ [.destroyed e])) :
    Keeps c V (destroy world e) idle X := by
  have hcmd : Keeps c V (cmd world ["terraform", "destroy", "-auto-approve", "-input=false",
      "-var=database_engine=" ++ e.name] (.destroy e)) down X := by
    refine cmd_keeps world le_rfl hVX (fun d l h => ?_) (fun status d l h => ?_) fun d l h => ?_
    · simpa [Job.onStart] using h
    · by_cases hst : status = 0
      · simpa [Job.onExit, hst] using hV d l h
      · simpa [Job.onExit, hst] using h
    · exact fun e' => by simpa [Job.onExit] using not_up_destroyed
  refine Triple.bind hcmd fun _ => Triple.modify fun s hs => ?_
  exact ⟨hs.cleaning, hs.unnamed, hs.contained, rfl, hs.view⟩

lemma waitForVms_keeps (hVX : V ≤ X) : Keeps c V (waitForVms world) V X := by
  refine Triple.bind (call_keeps world hVX) fun answer => ?_
  exact Triple.bind (checkAbort_keeps world hVX) fun _ => raiseIf_keeps hVX fun _ => trivial

lemma setResult_keeps {f : Result → Result} (hf : ∀ r, (f r).cleanupCmd = r.cleanupCmd) :
    Keeps c V (modify (State.setResult f)) V X := by
  refine Triple.modify fun s hs => ⟨hs.cleaning, ?_, hs.contained, hs.view⟩
  show (f s.result).cleanupCmd = none
  rw [hf]
  exact hs.unnamed

/-! ### The steps -/

lemma initTerraform_keeps (hVX : V ≤ X) : Keeps c V (initTerraform world) V X := by
  refine Triple.bind (next_keeps world) fun initialised => ?_
  exact Triple.ite (fun _ => Triple.pure fun _ hs => hs) fun _ => cmd_other_keeps world hVX

lemma preflight_keeps (hVX : V ≤ X) : Keeps c V (preflight world) V X := by
  refine Triple.bind (checkAbort_keeps world hVX) fun _ => ?_
  refine Triple.bind (next_keeps world) fun harness => ?_
  refine Triple.bind (raiseIf_keeps hVX fun _ => trivial) fun _ => ?_
  refine Triple.bind (Triple.forEach fun tool _ => ?_) fun _ => ?_
  · exact Triple.bind (next_keeps world) fun answer => raiseIf_keeps hVX fun _ => trivial
  refine Triple.bind (cmd_other_keeps world hVX) fun _ => ?_
  exact Triple.bind (initTerraform_keeps world hVX) fun _ => purge_keeps world hVX

lemma deployed_destroyed {e : Engine} (d : Option Engine) (l : List Event)
    (h : deployed e d l) : deployed e d (l ++ [.destroyed e]) :=
  ⟨h.1, fun _ he => absurd he not_up_destroyed⟩

lemma teardown_keeps (e : Engine) : Keeps c (deployed e) (teardown world e) idle tracked := by
  have hup := deployed_le_tracked e
  refine Triple.bind (checkAbort_keeps world hup) fun _ => ?_
  refine Triple.bind (logout_keeps world hup) fun _ => ?_
  refine Triple.bind (checkAbort_keeps world hup) fun _ => ?_
  refine Triple.bind (destroy_keeps world hup deployed_destroyed) fun _ => ?_
  refine Triple.bind (checkAbort_keeps world idle_le_tracked) fun _ => ?_
  exact purge_keeps world idle_le_tracked

/-- One engine, from no VMs to no VMs. -/
lemma oneEngine_keeps (e : Engine) : Keeps c idle (oneEngine world args e) idle tracked := by
  have hup := deployed_le_tracked e
  have hflag : flagged e ≤ tracked := le_trans (flagged_le_deployed e) hup
  refine Triple.bind (checkAbort_keeps world idle_le_tracked) fun _ => ?_
  refine Triple.bind (cmd_other_keeps world idle_le_tracked) fun _ => ?_
  refine Triple.bind (checkAbort_keeps world idle_le_tracked) fun _ => ?_
  refine Triple.bind (Q := fun _ => Steady c (flagged e)) (Triple.modify fun s hs => ?_) fun _ => ?_
  · exact ⟨hs.cleaning, hs.unnamed, hs.contained, rfl, hs.view.2⟩
  refine Triple.bind (Q := fun _ => Steady c (deployed e)) ?_ fun _ => ?_
  · refine cmd_keeps world (flagged_le_deployed e) hup (fun d l h => ⟨h.1, fun e' he' => ?_⟩) ?_ ?_
    · exact (up_applied.mp he').resolve_right (h.2 e')
    · exact fun _ d l h => by simpa [Job.onExit] using h
    · exact fun d l h => by simpa [Job.onExit] using h
  refine Triple.bind (checkAbort_keeps world hup) fun _ => ?_
  refine Triple.bind (waitForVms_keeps world hup) fun _ => ?_
  refine Triple.bind (checkAbort_keeps world hup) fun _ => ?_
  refine Triple.bind (call_keeps world hup) fun before => ?_
  refine Triple.bind (cmd_other_keeps world hup) fun _ => ?_
  refine Triple.bind (call_keeps world hup) fun found => ?_
  refine Triple.bind (setResult_keeps fun r => ?_) fun _ => teardown_keeps world e
  unfold noteBench
  split <;> rfl

/-- The comparison may fail, nothing else of the step may. -/
lemma compareEngines_keeps (crdb pg : String) (hVX : V ≤ X) :
    Keeps c V (compareEngines world crdb pg) V X := by
  have hcmd : Keeps c V (cmd world [".venv/bin/crdblab", "analyze", "engine-comparison",
      "--crdb", crdb, "--pg", pg]) V V := cmd_other_keeps world le_rfl
  refine Triple.except hcmd fun ex => ?_
  cases ex with
  | stepFailed message => exact Triple.pure fun s hs => hs.1 trivial
  | aborted => exact Triple.throw fun s hs => ⟨fun h => (hs.1 h).mono hVX, hs.2⟩
  | tailscale message => exact Triple.throw fun s hs => ⟨fun h => (hs.1 h).mono hVX, hs.2⟩
  | other kind message => exact Triple.throw fun s hs => ⟨fun h => (hs.1 h).mono hVX, hs.2⟩
  | fatal kind message => exact Triple.throw fun s hs => ⟨fun h => (hs.1 h).mono hVX, hs.2⟩

lemma insights_keeps (hVX : V ≤ X) : Keeps c V (insights world args) V X := by
  refine Triple.bind (checkAbort_keeps world hVX) fun _ => ?_
  refine Triple.bind (call_keeps world hVX) fun before => ?_
  refine Triple.bind (cmd_other_keeps world hVX) fun _ => ?_
  refine Triple.bind (call_keeps world hVX) fun found => ?_
  refine Triple.bind (setResult_keeps fun r => ?_) fun _ => Triple.get_bind fun s hs => ?_
  · unfold noteInsights
    split <;> rfl
  · have hhere : ∀ t, t = s → Steady c V t := fun t ht => ht ▸ hs
    split
    · exact (compareEngines_keeps world _ _ hVX).pre hhere
    · exact Triple.pure hhere

lemma steps_keeps : Keeps false idle (steps world args) idle tracked := by
  refine Triple.bind (preflight_keeps world idle_le_tracked) fun _ => ?_
  refine Triple.bind (Triple.forEach fun e _ => oneEngine_keeps world args e) fun _ => ?_
  refine Triple.bind (insights_keeps world args idle_le_tracked) fun _ => ?_
  exact setResult_keeps fun r => rfl

/-! ### The failure -/

/-- The cleanup's body returns with nothing up. -/
lemma takeDown_keeps (e : Engine) : Keeps c (only e) (takeDown world e) down (only e) := by
  have hidle : idle ≤ only e := fun _ _ h e' he' => absurd he' (h.2 e')
  have hdown : ∀ s, Steady c idle s → Steady c down s := fun s hs => hs.mono fun _ _ h => h.2
  refine Triple.bind (logout_keeps world le_rfl) fun _ => ?_
  refine Triple.bind (destroy_keeps world le_rfl fun d l _ e' he => ?_) fun _ => ?_
  · exact absurd he not_up_destroyed
  refine Triple.bind (purge_keeps world hidle) fun _ => ?_
  refine Triple.post (Q := fun _ => Steady c idle) (setResult_keeps fun r => ?_) fun _ => hdown
  rfl

/-- A cleanup that goes on to its end names the VMs it could not take down. -/
lemma cleanup_settles (e : Engine) :
    Triple (Steady false (only e)) (cleanup world e) (fun _ => Settled) fun _ => Settled := by
  refine Triple.bind (Q := fun _ => Steady true (only e)) (Triple.modify fun s hs => ?_) fun _ => ?_
  · exact ⟨rfl, hs.unnamed, hs.contained, hs.view⟩
  have hname : ∀ s, Steady true (only e) s →
      Settled (s.setResult fun r => { r with cleanupCmd := some (cleanupCommand e) }) :=
    fun s hs => settled_of_named hs.contained hs.view rfl
  have hbody : Triple (Steady true (only e)) (takeDown world e) (fun _ => Settled)
      (Raised true (only e)) :=
    (takeDown_keeps world e).post fun _ s hs => hs.settled_of_down le_rfl
  have hend : Triple Settled (modify fun s => { s with cleaning := false } : Step Unit)
      (fun _ => Settled) fun _ => Settled := Triple.modify fun _ hs => hs
  refine Triple.lastly (Triple.except hbody fun ex => ?_) (fun _ => hend) (fun _ => hend)
    fun _ _ h => h
  cases ex with
  | stepFailed message => exact Triple.modify fun s hs => hname s (hs.1 trivial)
  | tailscale message => exact Triple.modify fun s hs => hname s (hs.1 trivial)
  | aborted => exact Triple.throw fun s hs => hs.2 Bool.noConfusion
  | other kind message => exact Triple.throw fun s hs => hs.2 Bool.noConfusion
  | fatal kind message => exact Triple.throw fun s hs => hs.2 id

lemma waitProc_keeps (hV : ∀ d l e, V d l → V d (l ++ [.destroyed e])) :
    Triple (Steady c V) (waitProc world) (fun _ => Steady c V) R := by
  refine Triple.get_bind fun s hs => ?_
  have hhere : ∀ t, t = s → Steady c V t := fun t ht => ht ▸ hs
  cases hproc : s.proc with
  | none => exact Triple.pure hhere
  | some job =>
    refine Triple.pre (P := Steady c V) ?_ hhere
    refine Triple.bind (next_keeps world) fun answer => record_keeps fun d l h => ?_
    cases job with
    | apply e => simpa [Job.onExit] using h
    | other => simpa [Job.onExit] using h
    | destroy e =>
      by_cases hst : answer.status = 0
      · simpa [Job.onExit, hst] using hV d l e h
      · simpa [Job.onExit, hst] using h

lemma choose_keeps : Triple (Steady c V) (choose world args) (fun _ => Steady c V) R := by
  unfold choose
  cases args.onFailure with
  | destroy => exact Triple.pure fun _ hs => hs
  | leave => exact Triple.pure fun _ hs => hs
  | ask => exact Triple.bind (next_keeps world) fun _ => Triple.pure fun _ hs => hs

/-- Whatever the user chooses, what is left up is named. -/
lemma settleVms_settles (e : Engine) :
    Triple (Steady false (only e)) (settleVms world args e) (fun _ => Settled)
      fun _ => Settled := by
  refine Triple.bind (choose_keeps world args) fun choice => ?_
  cases choice with
  | destroy => exact cleanup_settles world e
  | leave => exact Triple.modify fun s hs => settled_of_named hs.contained hs.view rfl

lemma tracked_destroyed (d : Option Engine) (l : List Event) (e : Engine) (_ : tracked d l) :
    tracked d (l ++ [.destroyed e]) :=
  fun _ he => absurd he not_up_destroyed

lemma fail_settles (err : Exn) :
    Triple (Steady false tracked) (fail world args err) (fun _ => Settled) fun _ => Settled := by
  refine Triple.bind (Q := fun _ => Steady false tracked)
    (Triple.modify fun s hs => ⟨hs.cleaning, hs.unnamed, hs.contained, hs.view⟩) fun _ => ?_
  refine Triple.bind (waitProc_keeps world tracked_destroyed) fun _ => ?_
  refine Triple.get_bind fun s hs => ?_
  cases hd : s.deployed with
  | none =>
    refine Triple.pure ?_
    rintro _ rfl
    refine iff_of_true (fun e he => ?_) hs.contained
    have := hs.view e he
    rw [hd] at this
    cases this
  | some engine =>
    refine (settleVms_settles world args engine).pre ?_
    rintro _ rfl
    refine ⟨hs.cleaning, hs.unnamed, hs.contained, fun e he => ?_⟩
    have := hs.view e he
    rw [hd] at this
    cases this
    rfl

/-- However the run ends, it is settled. -/
lemma run_settles : Triple (Steady false idle) (run world args) (fun _ => Settled)
    fun _ => Settled := by
  have hdone : ∀ s, Steady false idle s → Settled s :=
    fun s hs => hs.settled_of_down fun _ _ h => h.2
  have hfail : ∀ err ex, Caught false ex →
      Triple (Raised false tracked ex) (fail world args err) (fun _ => Settled) fun _ => Settled :=
    fun err ex hex => (fail_settles world args err).pre fun s hs => hs.1 hex
  refine Triple.except ((steps_keeps world args).post fun _ => hdone) fun ex => ?_
  cases ex with
  | stepFailed message => exact hfail _ _ trivial
  | tailscale message => exact hfail _ _ trivial
  | aborted => exact hfail _ _ rfl
  | other kind message => exact hfail _ _ rfl
  | fatal kind message => exact Triple.throw fun s hs => hs.2 id

/-- **When a run names what it leaves up**: nothing is left up silently exactly when every
exception that the outside answers with while VMs are up is one that is caught there. -/
theorem named_iff :
    (∀ e, Up (finish world args).events e → Named (finish world args) e) ↔
      Contained (finish world args) := by
  have hstart : Steady false idle ({} : State) :=
    ⟨rfl, rfl, fun r hr => absurd hr List.not_mem_nil, rfl, fun e => not_open_nil⟩
  have hend := run_settles world args {} hstart
  show Settled (finish world args)
  unfold finish
  rcases hrun : outcome (run world args) {} with ⟨ex | u, t⟩ <;> rw [hrun] at hend <;> exact hend

/-! ### VMs left up silently -/

/-- The experiment fails, and the logout that starts the cleanup cannot start its processes. -/
def brokenLogout : World where
  repo := "/home/user/project-hydra"
  answers := fun n =>
    if n = 25 then { status := 1 }
    else if n = 27 then
      { call := some (.other "OSError" "[Errno 11] Resource temporarily unavailable") }
    else {}

def destroyingArgs : Args where
  engineList := [.cockroachdb, .postgresql]
  profile := "smoke"
  chaos := false
  onFailure := .destroy

/-- The error is the experiment's, an apply stands without a destroy, and no command is named. -/
theorem brokenLogout_unnamed :
    (finish brokenLogout destroyingArgs).result.error =
      some ("`./run-experiment.sh --engine cockroachdb --profile smoke --no-chaos` " ++
        "exited with status 1") ∧
    ¬ ∀ e, Up (finish brokenLogout destroyingArgs).events e →
      Named (finish brokenLogout destroyingArgs) e := by
  have hevents : (finish brokenLogout destroyingArgs).events = [.applied .cockroachdb] := by
    decide +kernel
  have hcmd : (finish brokenLogout destroyingArgs).result.cleanupCmd = none := by decide +kernel
  refine ⟨by decide +kernel, fun h => ?_⟩
  have hup : Up (finish brokenLogout destroyingArgs).events .cockroachdb := by
    rw [hevents]
    exact ⟨[], [], rfl, by simp⟩
  have hnamed := h _ hup
  rw [Named, hcmd] at hnamed
  cases hnamed

end CrdbLab.LeftVms
